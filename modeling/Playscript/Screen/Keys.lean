import Playscript.Screen.State

/-!
What the keys of the full-screen player do.
-/

namespace Playscript

inductive Key where
  | escape
  | enter
  | up
  | down
  | left
  | tab
  | char (c : Char)
  deriving DecidableEq, Repr

structure KeyPress where
  key : Key
  control : Bool := false
  deriving DecidableEq, Repr

namespace Screen

def menuRows : Nat := 5

structure Pressed where
  quit : Except Fault Bool
  screen : Screen
  session : Session

def quits (press : KeyPress) : Bool :=
  press.key == .escape || press.key == .char 'q' || (press.key == .char 'c' && press.control)

def settle (screen : Screen) (session : Session) : Pressed :=
  ⟨.ok false, screen.sync session, session⟩

def unchanged (screen : Screen) (session : Session) : Pressed :=
  ⟨.ok false, screen, session⟩

def settleOutcome (screen : Screen) (status : String) :
    Except Fault Outcome × Session → Pressed
  | (.error fault, session) => ⟨.error fault, screen, session⟩
  | (.ok _, session) => settle { screen with status := status } session

def selectUp (screen : Screen) : Screen :=
  let selected := screen.selected - 1
  { screen with selected := selected, scroll := min screen.scroll selected }

def selectDown (screen : Screen) : Screen :=
  let selected := min (screen.selected + 1) (screen.choices.length - 1)
  let scroll := if screen.scroll + menuRows ≤ selected then selected + 1 - menuRows else screen.scroll
  { screen with selected := selected, scroll := scroll }

def moveSelection (screen : Screen) (session : Session) (moved : Screen) : Pressed :=
  if screen.choices.isEmpty then unchanged { screen with status := "no pending choice" } session
  else settle moved session

def confirm (screen : Screen) (session : Session) : Pressed :=
  if screen.choices.isEmpty then
    let (skipped, shown) := session.skip
    if skipped then settle { screen with status := "skipped" } shown
    else if screen.ended then settle { screen with status := "dialogue ended" } session
    else settleOutcome screen screen.status session.advance
  else
    match screen.choices[screen.selected]? with
    | none => ⟨.error .noSelection, screen, session⟩
    | some (index, _) => settleOutcome screen s!"chose {index}" (session.choose index)

def toggleAuto (screen : Screen) : Screen :=
  let auto := screen.auto.toggle
  { screen with auto := auto, status := if auto.enabled then "auto on" else "auto off" }

def press (screen : Screen) (session : Session) (keyPress : KeyPress) : Pressed :=
  if quits keyPress then ⟨.ok true, screen, session⟩
  else
    match keyPress.key with
    | .char 'h' => settle { screen with historyOpen := !screen.historyOpen } session
    | .char '?' => settle { screen with helpOpen := !screen.helpOpen } session
    | .char 'a' => settle screen.toggleAuto session
    | .char 'r' => settleOutcome screen "restarted" session.restart.advance
    | .up => moveSelection screen session screen.selectUp
    | .down => moveSelection screen session screen.selectDown
    | .enter | .char ' ' => confirm screen session
    | _ => unchanged screen session

end Screen
end Playscript
