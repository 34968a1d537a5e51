import Mathlib.Data.List.Induction
import Playscript.Proofs.Screen.Selection
import Playscript.Screen.Picture

/-!
The menu on the screen. A menu that takes the place of another finds the selection where it was, and
may have no option there; then no row is highlighted and the enter key has nothing to pick.
-/

namespace Playscript

namespace Production

/-- At every point of watching, the menu in the picture has its selection on the screen. -/
def MenusOnScreen (production : Production) (auto : Bool) (happenings : List Happening) : Prop :=
  ∀ earlier, earlier <+: happenings →
    let screen := (production.watched auto earlier).ready.screen
    screen.choices ≠ [] → screen.OnScreen

def MenusFit (production : Production) (auto : Bool) (happenings : List Happening) : Prop :=
  ∀ earlier happening, earlier ++ [happening] <+: happenings →
    let before := (production.watched auto earlier).ready.screen
    let after := (production.watched auto (earlier ++ [happening])).ready.screen
    before.choices ≠ [] → after.choices ≠ [] → before.selected < after.choices.length

variable {production : Production} {auto : Bool} {happenings : List Happening}

theorem watched_moves (production : Production) (auto : Bool) (earlier : List Happening)
    (happening : Happening) : (production.watched auto earlier).ready.screen.Moves
      (production.watched auto (earlier ++ [happening])).ready.screen := by
  rw [watched_append]
  exact (Watch.Sound.watched production auto earlier).after_moves happening

/-- The run lemma: nothing but a menu without room for it takes the selection off the screen. -/
theorem menusOnScreen_of_room
    (room : ∀ earlier happening, earlier ++ [happening] <+: happenings →
      let before := (production.watched auto earlier).ready.screen
      let after := (production.watched auto (earlier ++ [happening])).ready.screen
      before.choices ≠ [] → after.choices ≠ [] → before.OnScreen →
        before.selected < after.choices.length) :
    production.MenusOnScreen auto happenings := by
  intro earlier
  induction earlier using List.reverseRecOn with
  | nil =>
      -- The first picture is made of one without a menu.
      intro _ screen offering
      have moves : Screen.Moves (Screen.opening auto) screen := Screen.sync_moves .rfl
      exact moves.onScreen offering (fun was => absurd rfl was) (fun was => absurd rfl was)
  | append_singleton earlier happening ih =>
      intro within screen offering
      have onScreen := ih ((List.prefix_append earlier [happening]).trans within)
      apply (production.watched_moves auto earlier happening).onScreen offering onScreen
      exact fun was => room earlier happening within was offering (onScreen was)

theorem menusOnScreen_iff :
    production.MenusOnScreen auto happenings ↔ production.MenusFit auto happenings := by
  constructor
  · intro onScreen earlier happening within before after was offering
    have start := (List.prefix_append earlier [happening]).trans within
    exact (production.watched_moves auto earlier happening).room was offering
      (onScreen earlier start was) (onScreen _ within offering)
  · intro fits
    exact menusOnScreen_of_room fun earlier happening within was offering _ =>
      fits earlier happening within was offering

end Production

namespace Screen

variable {screen : Screen} {session : Session}

theorem menuLine_colour_iff (screen : Screen) (width place : Nat) :
    (screen.menuLine width place).colour = .green ↔ screen.revealing = false ∧
      screen.scroll + place = screen.selected ∧ screen.selected < screen.choices.length := by
  simp only [menuLine]
  cases screen.revealing with
  | true => simp [Line.plain]
  | false =>
      simp only [Bool.false_eq_true, if_false]
      cases listed : screen.choices[screen.scroll + place]? with
      | none =>
          have beyond := List.getElem?_eq_none_iff.mp listed
          simp only [Line.plain, reduceCtorEq, true_and, false_iff]
          omega
      | some choice =>
          have within := (List.getElem?_eq_some_iff.mp listed).1
          by_cases here : screen.scroll + place = screen.selected
          · simp only [if_pos here]
            exact ⟨fun _ => ⟨trivial, here, here ▸ within⟩, fun _ => rfl⟩
          · simp [here, Line.span]

theorem OnScreen.highlighted (onScreen : screen.OnScreen) (shown : screen.revealing = false)
    {index : Nat} {label : String} (selected : screen.choices[screen.selected]? = some (index, label))
    (width : Nat) : (screen.menu width).filter (fun line => line.colour = .green) =
      [.span .green ("> " ++ truncate (max (width - 2) 8) label)] := by
  obtain ⟨valid, above, below⟩ := onScreen
  let row := screen.selected - screen.scroll
  have rows : menuRows = 5 := rfl
  have place : screen.scroll + row = screen.selected := by omega
  have only : ∀ place < 5, (List.range 5).filter (fun other => other = place) = [place] := by
    decide
  -- Within the window the selection has one row, and only that row is highlighted.
  have highlights : ∀ other ∈ List.range menuRows,
      decide ((screen.menuLine width other).colour = .green) = decide (other = row) := by
    intro other _
    rw [decide_eq_decide, menuLine_colour_iff]
    simp only [shown, valid, true_and, and_true]
    omega
  rw [menu, List.filter_map]
  simp only [Function.comp_def]
  rw [List.filter_congr highlights, rows, only row (by omega)]
  simp [menuLine, shown, place, selected]

theorem not_highlighted (beyond : screen.choices.length ≤ screen.selected) (width : Nat) :
    (screen.menu width).filter (fun line => line.colour = .green) = [] := by
  rw [menu, List.filter_map, List.map_eq_nil_iff, List.filter_eq_nil_iff]
  intro place _
  simp only [Function.comp_apply, decide_eq_true_eq, menuLine_colour_iff]
  omega

theorem press_enter (screen : Screen) (session : Session) (control : Bool) :
    screen.press session ⟨.enter, control⟩ = screen.confirm session :=
  rfl

theorem confirm_selected {index : Nat} {label : String}
    (selected : screen.choices[screen.selected]? = some (index, label)) :
    screen.confirm session =
      screen.settleOutcome s!"chose {index}" (session.choose index) := by
  have offers : screen.choices.isEmpty = false := by
    rw [List.isEmpty_eq_false_iff]
    rintro bare
    simp [bare] at selected
  simp only [confirm, offers, Bool.false_eq_true, if_false, selected]

theorem choose_not_lost (session : Session) (index : Nat) :
    (session.choose index).1 ≠ .error .noSelection := by
  have chosen := Playback.choose_chosen session.production session.playback index
  simp only [Session.choose]
  generalize session.playback.choose session.production index = step at chosen ⊢
  cases chosen with
  | idle | outOfRange => simp
  | followed =>
      intro failed
      rcases Playback.advance_fault failed with ⟨_, _, named⟩ | ⟨_, _, _, blocked⟩
      · cases named
      · rcases blocked.of_record with ⟨_, _, named⟩ | ⟨_, named⟩
        · cases named
        · cases named

theorem confirm_lost_iff (offering : screen.choices ≠ []) :
    (screen.confirm session).quit = .error .noSelection ↔
      screen.choices.length ≤ screen.selected := by
  have offers : screen.choices.isEmpty = false := by simpa using offering
  cases selected : screen.choices[screen.selected]? with
  | none =>
      have beyond := List.getElem?_eq_none_iff.mp selected
      simp only [confirm, offers, Bool.false_eq_true, if_false, selected, beyond]
  | some choice =>
      have within := (List.getElem?_eq_some_iff.mp selected).1
      obtain ⟨index, label⟩ := choice
      have lost := choose_not_lost session index
      rw [confirm_selected selected]
      generalize session.choose index = step at lost ⊢
      obtain ⟨outcome, next⟩ := step
      cases outcome with
      | ok outcome =>
          simp only [settleOutcome, settle, reduceCtorEq, false_iff]
          omega
      | error fault =>
          have other : fault ≠ .noSelection := fun same => lost (congrArg Except.error same)
          simp only [settleOutcome, Except.error.injEq, other, false_iff]
          omega

end Screen

namespace Production

/-- No option leads straight to a menu that is too short for its place. -/
structure LeavesRoom (production : Production) : Prop where
  options {cursor : Address} {menu next : List BranchOption} {index : Nat}
    {option : BranchOption} : production.MenuAt cursor menu → menu[index]? = some option →
    production.MenuAt option.target next → next ≠ [] → index < next.length
  entry {cursor : Address} {menu next : List BranchOption} : production.MenuAt cursor menu →
    production.MenuAt production.entry next → next ≠ [] → menu.length ≤ next.length

end Production

theorem MenuInvariant.offered_here {production : Production} {playback : Playback}
    (invariant : MenuInvariant production playback) (bare : playback.pending = [])
    (offering : (playback.advance production).next.pending ≠ []) :
    production.MenuAt playback.view.cursor (playback.advance production).next.pending := by
  have after := invariant.advance
  have advanced := Playback.advance_advanced production playback
  generalize playback.advance production = step at advanced after offering ⊢
  cases advanced with
  | finished | waiting | astray | blocked | shown | ended => exact absurd bare offering
  | offered => exact (after.offered rfl).2

namespace Watch.Sound

variable {production : Production} {watch : Watch}

theorem choices_length (sound : watch.Sound production) :
    watch.ready.screen.choices.length = watch.playback.pending.length := by
  rw [sound.ready_pictures.choices, List.length_map]

theorem choices_ne_nil_iff (sound : watch.Sound production) :
    watch.ready.screen.choices ≠ [] ↔ watch.playback.pending ≠ [] := by
  rw [sound.ready_pictures.choices, Ne, List.map_eq_nil_iff]

theorem room (sound : watch.Sound production) (leaves : production.LeavesRoom)
    {happening : Happening} (was : watch.ready.screen.choices ≠ [])
    (offering : (watch.after happening).playback.pending ≠ [])
    (valid : watch.ready.screen.selected < watch.playback.pending.length) :
    watch.ready.screen.selected < (watch.after happening).playback.pending.length := by
  have pictures := sound.ready_pictures
  have awaiting := pictures.awaiting sound.menu was
  have menuAt := (sound.menu.offered awaiting).2
  rw [after_playback, sound.plays] at offering ⊢
  cases happening with
  | tick =>
      have same := watch.playback.tick_turned.pending
      exact same.symm ▸ valid
  | work =>
      have same := watch.playback.work_turned.pending
      exact same.symm ▸ valid
  | sync => exact valid
  | poll now =>
      simp only [asks] at offering ⊢
      split at offering
      · rename_i fires
        have settled := pictures.settled sound.menu sound.whole (Screen.settled_of_poll fires)
        exact absurd awaiting settled.2.1
      · rename_i quiet
        rw [if_neg quiet]
        exact valid
  | press keyPress =>
      have responds := watch.ready.screen.press_responds watch.session keyPress
      simp only [asks] at offering ⊢
      generalize watch.ready.screen.asks watch.session keyPress = moments at responds offering ⊢
      generalize watch.ready.screen.press watch.session keyPress = pressed at responds
      cases responds with
      | still | turned | up | down | lost => exact valid
      | skipped bare | advanced bare => exact absurd bare was
      | restarted =>
          have next := (MenuInvariant.kept production).opening.offered_here rfl offering
          exact Nat.lt_of_lt_of_le valid (leaves.entry menuAt next offering)
      | @chosen _ index label selected =>
          rw [pictures.choices, List.getElem?_map, Option.map_eq_some_iff] at selected
          obtain ⟨option, found, made⟩ := selected
          -- The options of a menu are numbered by their places.
          obtain rfl : watch.ready.screen.selected = index :=
            (menuAt.option _ option found).1.symm.trans (congrArg Prod.fst made)
          have followed : watch.playback.choose production watch.ready.screen.selected =
              watch.playback.follow production option :=
            Playback.choose_of_option awaiting found
          have moved := (MenuInvariant.kept production).follow _ option sound.menu awaiting
            (List.mem_of_getElem? found)
          simp only [List.foldl_cons, List.foldl_nil, Playback.after, Playback.perform, Step.map,
            followed] at offering ⊢
          exact leaves.options menuAt found (moved.offered_here rfl offering) offering

end Watch.Sound

theorem Production.LeavesRoom.menusOnScreen {production : Production}
    (leaves : production.LeavesRoom) (auto : Bool) (happenings : List Happening) :
    production.MenusOnScreen auto happenings := by
  apply menusOnScreen_of_room
  intro earlier happening _
  rw [watched_append]
  intro before after was offering onScreen
  have sound := Watch.Sound.watched production auto earlier
  have later := sound.after happening
  have valid := onScreen.valid
  rw [sound.choices_length] at valid
  rw [later.choices_length]
  exact sound.room leaves was (later.choices_ne_nil_iff.mp offering) valid

/-- The selection is on the screen exactly when each menu that takes the place of another has an
option where it is. -/
theorem menu_onScreen_iff (production : Production) (auto : Bool) (happenings : List Happening) :
    (production.MenusOnScreen auto happenings ↔ production.MenusFit auto happenings) ∧
    (production.LeavesRoom → production.MenusFit auto happenings) ∧
    let watch := production.watched auto happenings
    let screen := watch.ready.screen
    screen.choices ≠ [] →
      (screen.OnScreen → ∃ label, screen.choices[screen.selected]? = some (screen.selected, label) ∧
        (∀ width, (screen.menu width).filter (fun line => line.colour = .green) =
          [.span .green ("> " ++ Screen.truncate (max (width - 2) 8) label)]) ∧
        ∀ control, screen.press watch.session ⟨.enter, control⟩ =
          screen.settleOutcome s!"chose {screen.selected}"
            (watch.session.choose screen.selected)) ∧
      (screen.choices.length ≤ screen.selected → ∀ width,
        (screen.menu width).filter (fun line => line.colour = .green) = []) ∧
      ∀ control, (screen.press watch.session ⟨.enter, control⟩).quit = .error .noSelection ↔
        screen.choices.length ≤ screen.selected := by
  refine ⟨Production.menusOnScreen_iff, ?_, ?_⟩
  · exact fun leaves => Production.menusOnScreen_iff.mp (leaves.menusOnScreen auto happenings)
  intro watch screen offering
  have sound : watch.Sound production := Watch.Sound.watched production auto happenings
  have pictures : screen.Pictures watch.playback := sound.ready_pictures
  refine ⟨?_, Screen.not_highlighted, fun control => Screen.confirm_lost_iff offering⟩
  intro onScreen
  have awaiting := pictures.awaiting sound.menu offering
  have menuAt := (sound.menu.offered awaiting).2
  have valid : screen.selected < watch.playback.pending.length :=
    sound.choices_length ▸ onScreen.valid
  obtain ⟨option, found⟩ : ∃ option, watch.playback.pending[screen.selected]? = some option :=
    ⟨_, List.getElem?_eq_getElem valid⟩
  have selected : screen.choices[screen.selected]? = some (screen.selected, option.label) := by
    rw [pictures.choices, List.getElem?_map, found, Option.map_some]
    rw [(menuAt.option _ option found).1]
  exact ⟨option.label, selected,
    onScreen.highlighted (pictures.calm offering) selected,
    fun control => (Screen.press_enter screen _ control).trans (Screen.confirm_selected selected)⟩

def stairwellText : String :=
  "at,tag,who,what,next\n1,O,,Up,20\n2,O,,Down,10\n10,O,,Out,20\n20,END,,,"

/-- A menu of two, of which the second leads straight to a menu of one. -/
def stairwell : Production where
  graph := ⟨[
    ⟨1, "O", "", "Up", some 20, "default"⟩,
    ⟨2, "O", "", "Down", some 10, "default"⟩,
    ⟨10, "O", "", "Out", some 20, "default"⟩,
    ⟨20, "END", "", "", none, "default"⟩], by unfold Ascending; decide⟩
  config := {}
  cast := .nobody
  entry := 1
  mode := .manual
  interval := Config.revealStep {}
  units := Units.chars
  observers := []

theorem menu_atStairwell :
    let happenings : List Happening := [.press ⟨.down, false⟩, .press ⟨.enter, false⟩]
    let watch := stairwell.watched false happenings
    let screen := watch.ready.screen
    Production.ofText stairwellText {} = .ok stairwell ∧
    screen.choices = [(0, "Out")] ∧ screen.selected = 1 ∧
    ¬stairwell.MenusOnScreen false happenings ∧
    (screen.menu 20).filter (fun line => line.colour = .green) = [] ∧
    (screen.press watch.session ⟨.enter, false⟩).quit = .error .noSelection := by
  intro happenings watch screen
  have made : Production.ofText stairwellText {} = .ok stairwell := rfl
  have choices : screen.choices = [(0, "Out")] := by decide +kernel
  have selected : screen.selected = 1 := by decide +kernel
  have offering : screen.choices ≠ [] := by simp [choices]
  have beyond : screen.choices.length ≤ screen.selected := by simp [choices, selected]
  refine ⟨made, choices, selected, ?_, Screen.not_highlighted beyond 20, ?_⟩
  · intro onScreen
    exact absurd (onScreen happenings (List.prefix_refl _) offering).valid (Nat.not_lt.mpr beyond)
  · exact (Screen.confirm_lost_iff offering).mpr beyond

end Playscript
