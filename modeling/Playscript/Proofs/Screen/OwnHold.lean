import Playscript.Proofs.Playback.Events
import Playscript.Proofs.Screen.Hold

/-!
Whose hold it is. The timer knows nothing of lines: a hold runs on when a key shows another line,
unless a look at the clock finds that line still appearing. Where every such line is found so, no
line is left before its own hold is over.
-/

namespace Playscript

namespace Reveal

/-- It takes more than so many moves to end the reveal. -/
structure Lasts (reveal : Reveal) (moves : Nat) : Prop where
  running : reveal.isRunning = true
  left : reveal.progress.visible + moves ≤ reveal.progress.total

theorem start_lasts (mode : RevealMode) (total : Nat) (interval : Duration) :
    (start mode total interval).Lasts total :=
  ⟨rfl, Nat.le_of_eq (Nat.zero_add total)⟩

theorem Lasts.move {before after : Reveal} {moves : Nat} (lasts : before.Lasts moves)
    (more : 0 < moves)
    (moved : after.progress = before.progress ∨ after.progress = before.progress.step)
    (same : after.cancelled = before.cancelled) : after.Lasts (moves - 1) := by
  obtain ⟨running, left⟩ := lasts
  simp only [isRunning, Bool.and_eq_true, Bool.not_eq_true'] at running
  obtain ⟨unfinished, wanted⟩ := running
  rcases moved with still | stepped
  · constructor
    · simp only [isRunning, still, same, unfinished, wanted, Bool.not_false, Bool.and_self]
    · rw [still]
      omega
  · have onward : before.progress.step =
        { before.progress with visible := before.progress.visible + 1 } := by
      simp only [Progress.step, unfinished, Bool.false_eq_true, if_false]
      exact if_pos (by omega)
    rw [onward] at stepped
    constructor
    · simp only [isRunning, stepped, same, unfinished, wanted, Bool.not_false, Bool.and_self]
    · simp only [stepped]
      omega

end Reveal

namespace Event

def body? : Event → Option String
  | .bodySet body => some body
  | _ => none

def bodies (events : List Event) : List String := events.filterMap body?

theorem bodies_append (events later : List Event) :
    bodies (events ++ later) = bodies events ++ bodies later :=
  List.filterMap_append

theorem bodies_observe (production : Production) (view : View) :
    bodies (production.observe view) = [] :=
  Playback.filterMap_observe (fun _ _ => rfl) production view

theorem bodies_clearing (playback : Playback) : bodies playback.clearingEvents = [] :=
  Playback.filterMap_clearing rfl playback

end Event

namespace Playback

open Event (bodies)

def lineUnits (playback : Playback) : Nat :=
  (playback.reveal.map fun reveal => reveal.progress.total).getD 0

def KeepsLine (before after : Playback) : Prop :=
  after.view.shown = none ∨
    after.view.shown = before.view.shown ∧ after.lineUnits = before.lineUnits

def Fresh (playback : Playback) : Prop :=
  ∃ mode total interval, playback.reveal = some (Reveal.start mode total interval)

variable {production : Production} {playback next : Playback}

theorem KeepsLine.refl (playback : Playback) : playback.KeepsLine playback :=
  .inr ⟨rfl, rfl⟩

theorem KeepsLine.trans {last : Playback} (first : playback.KeepsLine next)
    (second : next.KeepsLine last) : playback.KeepsLine last := by
  rcases second with none | ⟨shown, units⟩
  · exact .inl none
  · rcases first with none | ⟨before, was⟩
    · exact .inl (shown.trans none)
    · exact .inr ⟨shown.trans before, units.trans was⟩

theorem Turned.lineUnits (turned : playback.Turned next) : next.lineUnits = playback.lineUnits := by
  rcases turned with rfl | ⟨before, after, revealed, turn, rfl⟩
  · rfl
  · simp only [Playback.lineUnits, revealed, Option.map_some, turn.total]

theorem Turned.keepsLine (turned : playback.Turned next) : playback.KeepsLine next :=
  .inr ⟨by rw [turned.view], turned.lineUnits⟩

inductive LineAfter (playback : Playback) (events : List Event) (next : Playback) : Prop
  | shown : bodies events ≠ [] → next.Fresh → LineAfter playback events next
  | kept : bodies events = [] → playback.KeepsLine next → LineAfter playback events next

theorem advance_lineAfter (production : Production) (playback : Playback) :
    playback.LineAfter (playback.advance production).events
      (playback.advance production).next := by
  have advanced := advance_advanced production playback
  have silent := Event.bodies_observe production playback.view
  generalize playback.advance production = step at advanced ⊢
  cases advanced with
  | finished | waiting | astray => exact .kept rfl (.refl playback)
  | blocked => exact .kept silent (.refl playback)
  | offered | ended =>
      refine .kept ?_ (.refl playback)
      rw [Event.bodies_append, silent]
      rfl
  | shown =>
      refine .shown ?_ ⟨_, _, _, rfl⟩
      rw [Event.bodies_append]
      exact List.append_ne_nil_of_right_ne_nil _ (List.cons_ne_nil _ _)

theorem choose_lineAfter (production : Production) (playback : Playback) (index : Nat) :
    playback.LineAfter (playback.choose production index).events
      (playback.choose production index).next := by
  have chosen := choose_chosen production playback index
  generalize playback.choose production index = step at chosen ⊢
  cases chosen with
  | idle | outOfRange => exact .kept rfl (.refl playback)
  | @followed option =>
      cases (playback.moveTo option.target .presenting).advance_lineAfter production with
      | shown told fresh =>
          refine .shown ?_ fresh
          rw [follow, Event.bodies_append]
          exact List.append_ne_nil_of_right_ne_nil _ told
      | kept silent keeps =>
          refine .kept ?_ keeps
          rw [follow, Event.bodies_append, Event.bodies_append, silent]
          cases production.graph.get? option.address <;> rfl

theorem after_lineAfter (production : Production) (playback : Playback) (moment : Moment) :
    playback.LineAfter (playback.eventsAt production moment)
      (playback.after production moment) := by
  cases moment with
  | worker => exact .kept rfl playback.work_turned.keepsLine
  | host operation =>
      cases operation with
      | advance => exact playback.advance_lineAfter production
      | choose index => exact playback.choose_lineAfter production index
      | restart => exact .kept (Event.bodies_clearing playback) (.inl rfl)
      | tick => exact .kept rfl playback.tick_turned.keepsLine
      | skip => exact .kept rfl playback.skip_turned.keepsLine
      | wait => exact .kept rfl playback.wait_turned.keepsLine
      | jumpTo address =>
          by_cases present : production.graph.contains address = true
          · simp only [eventsAt, after, perform, Step.map, jumpTo_of_contains present]
            exact .kept (Event.bodies_clearing playback) (.refl playback)
          · simp only [eventsAt, after, perform, Step.map, jumpTo_of_missing present]
            exact .kept rfl (.refl playback)

theorem fresh_of_told {moment : Moment}
    (told : bodies (playback.eventsAt production moment) ≠ []) :
    (playback.after production moment).Fresh := by
  cases playback.after_lineAfter production moment with
  | shown _ fresh => exact fresh
  | kept silent => exact absurd silent told

theorem foldl_keepsLine {moments : List Moment}
    (silent : bodies (playback.eventsOf production moments) = []) :
    playback.KeepsLine (moments.foldl (Playback.after production) playback) := by
  induction moments generalizing playback with
  | nil => exact .refl playback
  | cons moment rest ih =>
      rw [eventsOf, Event.bodies_append, List.append_eq_nil_iff] at silent
      cases playback.after_lineAfter production moment with
      | shown told => exact absurd silent.1 told
      | kept _ keeps => exact keeps.trans (ih silent.2)

end Playback

namespace Watch

variable {production : Production} {watch : Watch} {happening : Happening}

def ShowsLine (watch : Watch) (happening : Happening) : Prop :=
  Event.bodies (watch.playback.eventsOf watch.session.production (watch.asks happening)) ≠ []

theorem after_keepsLine (silent : ¬watch.ShowsLine happening) :
    watch.playback.KeepsLine (watch.after happening).playback := by
  rw [after_playback]
  exact Playback.foldl_keepsLine (Decidable.of_not_not silent)

theorem foldl_keepsLine {happenings : List Happening}
    (silent : watch.Throughout (fun watch happening => ¬watch.ShowsLine happening) happenings) :
    watch.playback.KeepsLine (happenings.foldl Watch.after watch).playback := by
  induction happenings generalizing watch with
  | nil => exact .refl watch.playback
  | cons happening rest ih => exact (after_keepsLine silent.1).trans (ih silent.2)

theorem silent_of_quiet {now : Nat} (quiet : watch.fires now = false) :
    ¬watch.ShowsLine (.poll now) := by
  have asked : watch.asks (.poll now) = [] := by
    rw [fires] at quiet
    simp only [asks, quiet, Bool.false_eq_true, if_false]
  rw [ShowsLine, asked]
  exact not_not_intro rfl

theorem Undisturbed.silent (calm : watch.Undisturbed happening)
    (other : ∀ keyPress, happening ≠ .press keyPress) : ¬watch.ShowsLine happening := by
  cases happening with
  | tick | work | sync => exact not_not_intro rfl
  | poll now => exact silent_of_quiet calm.2
  | press keyPress => exact absurd rfl (other keyPress)

theorem Sound.fresh (sound : watch.Sound production) {keyPress : KeyPress}
    (shows : watch.ShowsLine (.press keyPress)) : (watch.after (.press keyPress)).playback.Fresh := by
  rw [after_playback, sound.plays]
  rw [ShowsLine, sound.plays] at shows
  have patient := sound.press_patient keyPress
  generalize watch.asks (.press keyPress) = moments at shows patient ⊢
  cases patient with
  | nothing | skip => exact absurd rfl shows
  | advance | choose =>
      rw [Playback.eventsOf, Playback.eventsOf, List.append_nil] at shows
      exact Playback.fresh_of_told shows
  | anew =>
      -- The restart itself shows nothing.
      have cleared : Event.bodies
          (watch.playback.eventsAt production (.host .restart)) = [] :=
        Event.bodies_clearing watch.playback
      rw [Playback.eventsOf, Event.bodies_append, cleared, List.nil_append, Playback.eventsOf,
        Playback.eventsOf, List.append_nil] at shows
      exact Playback.fresh_of_told shows

/-- The picture counts the units of the line that is shown. -/
def Counts (watch : Watch) : Prop :=
  watch.current = true → watch.screen.units = watch.playback.lineUnits

theorem Counts.ready (counts : watch.Counts) :
    watch.ready.screen.units = watch.playback.lineUnits := by
  unfold Watch.ready
  split
  · rename_i current
    exact counts current
  · rfl

theorem Counts.after (counts : watch.Counts) (happening : Happening) :
    (watch.after happening).Counts := by
  intro current
  cases happening with
  | sync => rfl
  | press keyPress => cases current
  | tick => exact (counts current).trans watch.playback.tick_turned.lineUnits.symm
  | work => exact (counts current).trans watch.playback.work_turned.lineUnits.symm
  | poll now =>
      -- The timer has not fired, so nothing but the timer has changed.
      have units := counts.ready
      have same := watch.ready_session
      rcases watch.ready.poll_cases now with ⟨_, polled⟩ | ⟨_, _, _, polled⟩
      · simp only [Watch.after, screen, playback, session, polled]
        rw [same]
        exact units
      · simp [Watch.after, polled] at current

/-- The next look at the clock, if there is one, does not find the line settled. -/
def Unsettled (watch : Watch) : List Happening → Prop
  | [] => True
  | .poll _ :: _ => watch.ready.screen.settled = false
  | happening :: rest => (watch.after happening).Unsettled rest

/-- The next look at the clock comes before the next key and within so many moves of the reveal. -/
def LooksWithin (moves : Nat) : List Happening → Prop
  | [] | .poll _ :: _ => True
  | .sync :: rest => LooksWithin moves rest
  | .tick :: rest | .work :: rest => 0 < moves ∧ LooksWithin (moves - 1) rest
  | .press _ :: _ => False

def AfterLines (property : Watch → List Happening → Prop) (watch : Watch) :
    List Happening → Prop
  | [] => True
  | happening :: rest =>
    (∀ keyPress, happening = .press keyPress → watch.screen.auto.holdUntil ≠ none →
      watch.ShowsLine happening → property (watch.after happening) rest) ∧
    AfterLines property (watch.after happening) rest

/-- No line that a key shows during a hold has settled by the next look at the clock. -/
def Attentive (watch : Watch) (happenings : List Happening) : Prop :=
  watch.AfterLines Unsettled happenings

/-- After each key that shows a line during a hold, the clock is looked at before the line can be
whole. -/
def Prompt (watch : Watch) (happenings : List Happening) : Prop :=
  watch.AfterLines (fun shown rest => LooksWithin shown.playback.lineUnits rest) happenings

theorem afterLines_append {property : Watch → List Happening → Prop} {earlier later : List Happening}
    (holds : watch.AfterLines property (earlier ++ later)) :
    (earlier.foldl Watch.after watch).AfterLines property later := by
  induction earlier generalizing watch with
  | nil => exact holds
  | cons happening rest ih => exact ih holds.2

theorem Unsettled.absurd {later : List Happening} {now : Nat}
    (unsettled : watch.Unsettled (later ++ [.poll now]))
    (calm : watch.Throughout Undisturbed later)
    (settled : (later.foldl Watch.after watch).ready.screen.settled = true) : False := by
  induction later generalizing watch with
  | nil => exact Bool.noConfusion (settled.symm.trans unsettled)
  | cons happening rest ih =>
      cases happening with
      | poll seen => exact Bool.noConfusion (calm.1.1.symm.trans unsettled)
      | tick | work | sync | press => exact ih unsettled calm.2 settled

/-- To one who is attentive, a hold that is over has been that of one line. -/
theorem Attentive.silent {later : List Happening} {deadline now : Nat}
    (attentive : watch.Attentive (later ++ [.poll now]))
    (held : watch.screen.auto = ⟨true, some deadline⟩)
    (calm : watch.Throughout Undisturbed later)
    (settled : (later.foldl Watch.after watch).ready.screen.settled = true) :
    watch.Throughout (fun watch happening => ¬watch.ShowsLine happening) later := by
  induction later generalizing watch with
  | nil => trivial
  | cons happening rest ih =>
      refine ⟨?_, ih attentive.2 (after_undisturbed held calm.1) calm.2 settled⟩
      intro shows
      by_cases key : ∃ keyPress, happening = .press keyPress
      · obtain ⟨keyPress, pressed⟩ := key
        have running : watch.screen.auto.holdUntil ≠ none := by simp [held]
        exact (attentive.1 keyPress pressed running shows).absurd calm.2 settled
      · exact calm.1.silent (not_exists.mp key) shows

theorem Sound.unsettled (sound : watch.Sound production) {reveal : Reveal}
    (revealed : watch.playback.reveal = some reveal) {moves : Nat} (lasts : reveal.Lasts moves)
    {happenings : List Happening} (looks : LooksWithin moves happenings) :
    watch.Unsettled happenings := by
  induction happenings generalizing watch reveal moves with
  | nil => trivial
  | cons happening rest ih =>
      cases happening with
      | press => exact looks.elim
      | sync => exact ih (sound.after .sync) revealed lasts looks
      | tick =>
          have ticked : watch.playback.tick.2.reveal = some reveal.tick.2 := by
            simp only [Playback.tick, revealed]
          exact ih (sound.after .tick) ticked
            (lasts.move looks.1 reveal.tick_progress reveal.tick_cancelled) looks.2
      | work =>
          have worked : watch.playback.work.reveal = some reveal.work := by
            simp only [Playback.work, revealed, Option.map_some]
          exact ih (sound.after .work) worked
            (lasts.move looks.1 reveal.work_progress reveal.work_cancelled) looks.2
      | poll now =>
          have running : watch.playback.isRevealing = true := by
            simp only [Playback.isRevealing, revealed, Option.any_some, lasts.running]
          have appearing := sound.ready_pictures.revealing running
          simp only [Unsettled, Screen.settled, appearing, Bool.not_true, Bool.false_and]

theorem Sound.attentive (sound : watch.Sound production) {happenings : List Happening}
    (prompt : watch.Prompt happenings) : watch.Attentive happenings := by
  induction happenings generalizing watch with
  | nil => trivial
  | cons happening rest ih =>
      refine ⟨?_, ih (sound.after happening) prompt.2⟩
      rintro keyPress rfl running shows
      obtain ⟨mode, total, interval, revealed⟩ := sound.fresh shows
      have looks := prompt.1 keyPress rfl running shows
      simp only [Playback.lineUnits, revealed] at looks
      exact (sound.after (.press keyPress)).unsettled revealed (Reveal.start_lasts ..) looks

end Watch

namespace Production

variable {production : Production} {auto : Bool} {happenings earlier later : List Happening}
  {begun now : Nat}

/-- The line was found settled by a look, was held since for its own units, and none was shown in
the meantime. -/
structure HeldSince (production : Production) (auto : Bool) (happenings earlier : List Happening)
    (seen : Nat) (later : List Happening) (now : Nat) : Prop where
  split : happenings = earlier ++ .poll seen :: later
  settled : (production.watched auto earlier).ready.screen.settled = true
  silent : (production.watched auto earlier).Throughout
    (fun watch happening => ¬watch.ShowsLine happening) (.poll seen :: later)
  elapsed : seen + (production.config.autoPlayHold
    (production.watched auto happenings).playback.lineUnits).nanoseconds ≤ now

def OwnHold (production : Production) (auto : Bool) (happenings : List Happening) (now : Nat) :
    Prop :=
  ∃ earlier seen later, production.HeldSince auto happenings earlier seen later now

theorem watched_counts (production : Production) (auto : Bool) (happenings : List Happening) :
    (production.watched auto happenings).Counts := by
  induction happenings using List.reverseRecOn with
  | nil => exact fun current => nomatch current
  | append_singleton happenings happening ih =>
      rw [watched_append]
      exact ih.after happening

theorem Holding.heldSince (holding : production.Holding auto happenings earlier begun later)
    (silent : ((production.watched auto earlier).after (.poll begun)).Throughout
      (fun watch happening => ¬watch.ShowsLine happening) later)
    (shown : (production.watched auto happenings).playback.view.shown ≠ none)
    (elapsed : (production.watched auto earlier).holdOver begun ≤ now) :
    production.HeldSince auto happenings earlier begun later now := by
  have quiet := Watch.silent_of_quiet (holding.begins.poll begun).1
  refine ⟨holding.split, holding.begins.settled, ⟨quiet, silent⟩, ?_⟩
  have keeps := (Watch.after_keepsLine quiet).trans (Watch.foldl_keepsLine silent)
  rw [← watched_of_split holding.split] at keeps
  rcases keeps with none | ⟨_, units⟩
  · exact absurd none shown
  · have config : (production.watched auto earlier).session.config = production.config :=
      congrArg Production.config (Watch.Sound.watched production auto earlier).plays
    rw [units, ← (production.watched_counts auto earlier).ready, ← config]
    exact elapsed

end Production

/-- The timer fires at a settled line when a hold is over; to the attentive that hold was the line's
own. -/
theorem timer_ownHold (production : Production) (auto : Bool) (happenings : List Happening)
    (now : Nat) :
    let start := production.watched auto []
    let watch := production.watched auto happenings
    (watch.fires now = true ↔ watch.ready.screen.settled = true ∧
      ∃ earlier begun later, production.Holding auto happenings earlier begun later ∧
        (production.watched auto earlier).holdOver begun ≤ now) ∧
    (start.Attentive (happenings ++ [.poll now]) → watch.fires now = true →
      watch.playback.view.shown ≠ none → production.OwnHold auto happenings now) ∧
    (start.Prompt (happenings ++ [.poll now]) → start.Attentive (happenings ++ [.poll now])) := by
  intro start watch
  refine ⟨Production.fires_iff now, ?_, (Watch.Sound.opening production auto).attentive⟩
  intro attentive fired shown
  obtain ⟨settled, earlier, begun, later, holding, elapsed⟩ := (Production.fires_iff now).mp fired
  rw [holding.split, List.append_assoc] at attentive
  have onward : ((production.watched auto earlier).after (.poll begun)).Attentive
      (later ++ [.poll now]) := (Watch.afterLines_append attentive).2
  have silent := onward.silent (holding.begins.poll begun).2 holding.unbroken
    (Production.watched_of_split holding.split ▸ settled)
  exact ⟨earlier, begun, later, holding.heldSince silent shown elapsed⟩

def passageText : String := "at,tag,who,what,next\n1,T,,a,2\n2,T,,b,3\n3,END,,,"

def passage : Production where
  graph := ⟨[
    ⟨1, "T", "", "a", some 2, "default"⟩,
    ⟨2, "T", "", "b", some 3, "default"⟩,
    ⟨3, "END", "", "", none, "default"⟩], by unfold Ascending; decide⟩
  config := {}
  cast := .nobody
  entry := 1
  mode := .manual
  interval := Config.revealStep {}
  units := Units.chars
  observers := []

theorem timer_atPassage :
    let happenings : List Happening := [.press ⟨.enter, false⟩, .sync, .poll 0,
      .press ⟨.enter, false⟩, .sync, .poll 0, .tick, .tick, .tick, .tick, .sync, .poll 5, .sync]
    let watch := passage.watched true happenings
    (passage.watched true []).Prompt (happenings ++ [.poll 1000000000]) ∧
    watch.fires 1000000000 = true ∧ watch.playback.view.shown = some 2 ∧
    passage.OwnHold true happenings 1000000000 := by
  intro happenings watch
  have prompt : (passage.watched true []).Prompt (happenings ++ [.poll 1000000000]) := by
    simp [Watch.Prompt, happenings, Watch.AfterLines, Watch.LooksWithin]
  have fires : watch.fires 1000000000 = true := by decide +kernel
  have shown : watch.playback.view.shown = some 2 := by decide +kernel
  obtain ⟨_, owned, attentive⟩ := timer_ownHold passage true happenings 1000000000
  refine ⟨prompt, fires, shown, owned (attentive prompt) fires ?_⟩
  have same : (passage.watched true happenings).playback.view.shown = some 2 := shown
  simp [same]

/-- The second line is whole before the clock is looked at, and has the hold of the first. -/
theorem timer_inheritsHold :
    let happenings : List Happening := [.press ⟨.enter, false⟩, .sync, .poll 0,
      .press ⟨.enter, false⟩, .tick, .tick, .tick, .tick, .sync]
    let watch := passage.watched true happenings
    Production.ofText passageText {} = .ok passage ∧
    watch.fires 1000000000 = true ∧ watch.playback.view.shown = some 2 ∧
    ¬passage.OwnHold true happenings 1000000000 := by
  intro happenings watch
  have made : Production.ofText passageText {} = .ok passage := rfl
  have fires : watch.fires 1000000000 = true := by decide +kernel
  have shown : watch.playback.view.shown = some 2 := by decide +kernel
  refine ⟨made, fires, shown, ?_⟩
  rintro ⟨earlier, seen, later, split, _, silent, _⟩
  have shows : (passage.watched true [.press ⟨.enter, false⟩, .sync, .poll 0]).ShowsLine
      (.press ⟨.enter, false⟩) := by
    unfold Watch.ShowsLine
    decide +kernel
  -- The clock was looked at once, before the second line.
  rcases earlier with _ | ⟨_, _ | ⟨_, _ | ⟨_, earlier⟩⟩⟩
  · simp [happenings] at split
  · simp [happenings] at split
  · obtain ⟨rfl, rfl, rfl, rfl⟩ : _ ∧ _ ∧ 0 = seen ∧ _ = later := by
      simpa [happenings] using split
    exact silent.2.1 shows
  · have looked : Happening.poll seen ∈ earlier ++ .poll seen :: later := by simp
    simp only [happenings, List.cons_append, List.cons.injEq] at split
    simp [← split.2.2.2] at looked

end Playscript
