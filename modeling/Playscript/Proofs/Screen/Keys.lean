import Playscript.Proofs.Playback.Run
import Playscript.Screen.Loop

/-!
What a key can come to. Each case names what the screen was like, what the key asked of the playback
and what came of it; later proofs split into these cases and open no definition.
-/

namespace Playscript

namespace Screen

def confirmAsks (screen : Screen) (session : Session) : List Moment :=
  if screen.choices.isEmpty then
    if session.skip.1 then [.host .skip]
    else if screen.ended then [] else [.host .advance]
  else
    match screen.choices[screen.selected]? with
    | none => []
    | some (index, _) => [.host (.choose index)]

/-- What a key asks of the playback. Nothing else is done to it. -/
def asks (screen : Screen) (session : Session) (keyPress : KeyPress) : List Moment :=
  if quits keyPress then []
  else
    match keyPress.key with
    | .char 'r' => [.host .restart, .host .advance]
    | .enter | .char ' ' => screen.confirmAsks session
    | _ => []

structure SameMenu (screen other : Screen) : Prop where
  choices : other.choices = screen.choices
  selected : other.selected = screen.selected
  scroll : other.scroll = screen.scroll

theorem SameMenu.rfl {screen : Screen} : screen.SameMenu screen := ⟨.refl _, .refl _, .refl _⟩

inductive Responds (screen : Screen) (session : Session) :
    KeyPress → List Moment → Pressed → Prop
  | still {keyPress : KeyPress} {other : Screen} (quit : Bool) : screen.SameMenu other →
      Responds screen session keyPress [] ⟨.ok quit, other, session⟩
  | turned {keyPress : KeyPress} {other : Screen} : screen.SameMenu other →
      Responds screen session keyPress [] (settle other session)
  | up {keyPress : KeyPress} : screen.choices ≠ [] →
      Responds screen session keyPress [] (settle screen.selectUp session)
  | down {keyPress : KeyPress} : screen.choices ≠ [] →
      Responds screen session keyPress [] (settle screen.selectDown session)
  | restarted (control : Bool) :
      Responds screen session ⟨.char 'r', control⟩ [.host .restart, .host .advance]
        (settleOutcome screen "restarted" session.restart.advance)
  | skipped {keyPress : KeyPress} : screen.choices = [] →
      Responds screen session keyPress [.host .skip]
        (settle { screen with status := "skipped" } session.skip.2)
  | advanced {keyPress : KeyPress} : screen.choices = [] → session.skip.1 = false →
      screen.ended = false →
      Responds screen session keyPress [.host .advance]
        (settleOutcome screen screen.status session.advance)
  | chosen {keyPress : KeyPress} {index : Nat} {label : String} :
      screen.choices[screen.selected]? = some (index, label) →
      Responds screen session keyPress [.host (.choose index)]
        (settleOutcome screen s!"chose {index}" (session.choose index))
  | lost {keyPress : KeyPress} : screen.choices ≠ [] →
      screen.choices[screen.selected]? = none →
      Responds screen session keyPress [] ⟨.error .noSelection, screen, session⟩

variable (screen : Screen) (session : Session) (keyPress : KeyPress)

theorem confirm_responds :
    screen.Responds session keyPress (screen.confirmAsks session) (screen.confirm session) := by
  rw [confirmAsks, confirm]
  by_cases empty : screen.choices = []
  · have bare : screen.choices.isEmpty = true := by simp [empty]
    simp only [bare, if_true]
    cases skips : session.skip.1 with
    | true => exact .skipped empty
    | false =>
        cases ended : screen.ended with
        | true => exact .turned ⟨rfl, rfl, rfl⟩
        | false => exact .advanced empty skips ended
  · have offers : screen.choices.isEmpty = false := by simpa using empty
    simp only [offers, Bool.false_eq_true, if_false]
    cases selected : screen.choices[screen.selected]? with
    | none => exact .lost empty selected
    | some choice => exact .chosen selected

theorem moveSelection_responds {moved : Screen}
    (moves : screen.choices ≠ [] →
      screen.Responds session keyPress [] (settle moved session)) :
    screen.Responds session keyPress [] (screen.moveSelection session moved) := by
  by_cases empty : screen.choices = []
  · have bare : screen.choices.isEmpty = true := by simp [empty]
    simp only [moveSelection, bare, if_true]
    exact .still false ⟨rfl, rfl, rfl⟩
  · have offers : screen.choices.isEmpty = false := by simpa using empty
    simp only [moveSelection, offers, Bool.false_eq_true, if_false]
    exact moves empty

theorem press_responds :
    screen.Responds session keyPress (screen.asks session keyPress)
      (screen.press session keyPress) := by
  obtain ⟨key, control⟩ := keyPress
  cases quit : quits ⟨key, control⟩ with
  | true =>
      simp only [asks, press, quit, if_true]
      exact .still true ⟨rfl, rfl, rfl⟩
  | false =>
      simp only [asks, press, quit, Bool.false_eq_true, if_false]
      split
      · exact .restarted control
      · exact screen.confirm_responds session _
      · exact screen.confirm_responds session _
      · split
        · exact .turned ⟨rfl, rfl, rfl⟩
        · exact .turned ⟨rfl, rfl, rfl⟩
        · exact .turned ⟨rfl, rfl, rfl⟩
        · contradiction
        · exact screen.moveSelection_responds session _ .up
        · exact screen.moveSelection_responds session _ .down
        · contradiction
        · contradiction
        · exact .still false ⟨rfl, rfl, rfl⟩

variable {screen session keyPress}

theorem settleOutcome_session (status : String) (step : Except Fault Outcome × Session) :
    (screen.settleOutcome status step).session = step.2 := by
  obtain ⟨outcome, next⟩ := step
  cases outcome <;> rfl

theorem Responds.production {moments : List Moment} {pressed : Pressed}
    (responds : screen.Responds session keyPress moments pressed) :
    pressed.session.production = session.production := by
  cases responds with
  | still | turned | up | down | skipped | lost => rfl
  | restarted | advanced | chosen =>
      rw [settleOutcome_session]
      rfl

theorem Responds.playback {moments : List Moment} {pressed : Pressed}
    (responds : screen.Responds session keyPress moments pressed) :
    pressed.session.playback =
      moments.foldl (Playback.after session.production) session.playback := by
  cases responds with
  | still | turned | up | down | skipped | lost => rfl
  | restarted | advanced | chosen =>
      rw [settleOutcome_session]
      rfl

end Screen
end Playscript
