import Playscript.Proofs.Playback.Advance
import Playscript.Proofs.Reveal

/-!
Properties that hold in every state of a performance: those of the opening that each elementary
change keeps.
-/

namespace Playscript

namespace Production

theorem prepare_eq_ok_iff (graph : Graph) (request : Request) (production : Production) :
    prepare graph request = .ok production ↔
      request.config.validate = .ok () ∧ ∃ first, graph.first? = some first ∧
        graph.contains (request.entry.getD first) = true ∧ {
          graph := graph
          config := request.config
          cast := request.cast
          entry := request.entry.getD first
          mode := request.mode
          interval := request.interval.getD request.config.revealStep
          units := request.units
          observers := request.observers } = production := by
  unfold prepare
  cases sound : request.config.validate with
  | error fault => simp [bind_eq_ok_iff]
  | ok _ =>
      cases lowest : graph.first? with
      | none => simp [bind_eq_ok_iff, throw_ne_ok]
      | some first =>
          cases present : graph.contains (request.entry.getD first) with
          | false => simp [bind_eq_ok_iff, map_eq_ok_iff, throw_ne_ok, present]
          | true => simp [map_eq_ok_iff, present]

end Production

inductive Moment where
  | host (operation : Operation)
  | worker
  deriving DecidableEq, Repr

def Playback.work (playback : Playback) : Playback :=
  { playback with reveal := playback.reveal.map Reveal.work }

def Playback.after (production : Production) (playback : Playback) : Moment → Playback
  | .host operation => (playback.perform production operation).next
  | .worker => playback.work

def Production.reached (production : Production) (moments : List Moment) : Playback :=
  moments.foldl (Playback.after production) production.opening

structure Kept (production : Production) (property : Playback → Prop) : Prop where
  opening : property production.opening
  advance (playback : Playback) : property playback → property (playback.advance production).next
  follow (playback : Playback) (option : BranchOption) : property playback →
    playback.phase = .awaitingChoice → option ∈ playback.pending →
    property (playback.moveTo option.target .presenting)
  jump (playback : Playback) (address : Address) (phase : Phase) : property playback →
    production.graph.contains address = true →
    (phase = .ready ∧ playback.phase = .ready) ∨ phase = .presenting →
    property (playback.moveTo address phase)
  reveal (playback : Playback) (before after : Reveal) : property playback →
    playback.reveal = some before → before.Turn after →
    property { playback with reveal := some after }

namespace Playback

def Turned (playback next : Playback) : Prop :=
  next = playback ∨ ∃ before after, playback.reveal = some before ∧ before.Turn after ∧
    next = { playback with reveal := some after }

namespace Turned

variable {playback next : Playback}

theorem view (turned : playback.Turned next) : next.view = playback.view := by
  rcases turned with rfl | ⟨_, _, _, _, rfl⟩ <;> rfl

theorem phase (turned : playback.Turned next) : next.phase = playback.phase := by
  rcases turned with rfl | ⟨_, _, _, _, rfl⟩ <;> rfl

theorem pending (turned : playback.Turned next) : next.pending = playback.pending := by
  rcases turned with rfl | ⟨_, _, _, _, rfl⟩ <;> rfl

end Turned

theorem tick_turned (playback : Playback) : playback.Turned playback.tick.2 := by
  obtain ⟨view, phase, pending, reveal⟩ := playback
  cases reveal with
  | none => exact Or.inl rfl
  | some before => exact Or.inr ⟨before, before.tick.2, rfl, .tick, rfl⟩

theorem skip_turned (playback : Playback) : playback.Turned playback.skip.2 := by
  obtain ⟨view, phase, pending, reveal⟩ := playback
  cases reveal with
  | none => exact Or.inl rfl
  | some before =>
      by_cases running : before.isRunning
      · exact Or.inr ⟨before, before.finishNow, rfl, .finish, by simp [skip, running]⟩
      · exact Or.inl (by simp [skip, running])

theorem skip_fst (playback : Playback) : playback.skip.1 = playback.isRevealing := by
  obtain ⟨view, phase, pending, reveal⟩ := playback
  cases reveal with
  | none => rfl
  | some reveal => cases running : reveal.isRunning <;> simp [skip, isRevealing, running]

theorem wait_turned (playback : Playback) : playback.Turned playback.wait := by
  obtain ⟨view, phase, pending, reveal⟩ := playback
  cases reveal with
  | none => exact Or.inl rfl
  | some before => exact Or.inr ⟨before, before.wait, rfl, .wait, rfl⟩

theorem work_turned (playback : Playback) : playback.Turned playback.work := by
  obtain ⟨view, phase, pending, reveal⟩ := playback
  cases reveal with
  | none => exact Or.inl rfl
  | some before => exact Or.inr ⟨before, before.work, rfl, .work, rfl⟩

theorem run_next (production : Production) (playback : Playback) (operations : List Operation) :
    (playback.run production operations).next =
      (operations.map Moment.host).foldl (Playback.after production) playback := by
  induction operations generalizing playback with
  | nil => rfl
  | cons operation rest ih => exact ih (playback.perform production operation).next

end Playback

namespace Kept

variable {production : Production} {property : Playback → Prop}

theorem turned (kept : Kept production property) {playback next : Playback}
    (holds : property playback) (turned : playback.Turned next) : property next := by
  rcases turned with rfl | ⟨before, after, shown, turn, rfl⟩
  · exact holds
  · exact kept.reveal playback before after holds shown turn

theorem choose (kept : Kept production property) {playback : Playback} (index : Nat)
    (holds : property playback) : property (playback.choose production index).next := by
  have chosen := Playback.choose_chosen production playback index
  generalize playback.choose production index = step at chosen ⊢
  cases chosen with
  | idle => exact holds
  | outOfRange => exact holds
  | followed awaiting found =>
      exact kept.advance _ (kept.follow playback _ holds awaiting (List.mem_of_getElem? found))

theorem jumpTo (kept : Kept production property) {playback : Playback} (address : Address)
    (holds : property playback) : property (playback.jumpTo production address).next := by
  by_cases present : production.graph.contains address = true
  · rw [Playback.jumpTo_of_contains present]
    apply kept.jump playback address _ holds present
    by_cases ready : playback.phase = .ready
    · exact Or.inl ⟨if_pos ready, ready⟩
    · exact Or.inr (if_neg ready)
  · rw [Playback.jumpTo_of_missing present]
    exact holds

theorem after (kept : Kept production property) {playback : Playback} (moment : Moment)
    (holds : property playback) : property (playback.after production moment) := by
  cases moment with
  | worker => exact kept.turned holds playback.work_turned
  | host operation =>
      cases operation with
      | advance => exact kept.advance playback holds
      | choose index => exact kept.choose index holds
      | jumpTo address => exact kept.jumpTo address holds
      | restart => exact kept.opening
      | tick => exact kept.turned holds playback.tick_turned
      | skip => exact kept.turned holds playback.skip_turned
      | wait => exact kept.turned holds playback.wait_turned

theorem foldl_after (kept : Kept production property) {playback : Playback}
    (moments : List Moment) (holds : property playback) :
    property (moments.foldl (Playback.after production) playback) := by
  induction moments generalizing playback with
  | nil => exact holds
  | cons moment rest ih => exact ih (kept.after moment holds)

theorem reached (kept : Kept production property) (moments : List Moment) :
    property (production.reached moments) :=
  kept.foldl_after moments kept.opening

end Kept

def crossroadsCast : Cast :=
  ⟨[⟨"Aoi", true, [⟨"calm", "aoi/calm.png"⟩, ⟨"smile", "aoi/smile.png"⟩]⟩]⟩

/-- A performance with a menu of two, of which the second leads nowhere. -/
def crossroads : Production where
  graph := ⟨[
    ⟨1, "W", "Aoi", "Where now?", some 2, "smile"⟩,
    ⟨2, "O", "", "Left", some 4, "default"⟩,
    ⟨3, "O", "", "Right", some 9, "default"⟩,
    ⟨4, "END", "", "", none, "default"⟩], by unfold Ascending; decide⟩
  config := {}
  cast := crossroadsCast
  entry := 1
  mode := .manual
  interval := Config.revealStep {}
  units := Units.chars
  observers := []

end Playscript
