import Playscript.Screen.Keys

/-!
The rounds of the full-screen player. In each it brings the picture up to date and draws it; then
the timer may move on, or else a key is taken. A fault becomes the status and the player goes on.
-/

namespace Playscript

structure Viewing where
  screen : Screen
  session : Session

namespace Viewing

/-- The first line is played before the first round, which only follows if that went well. -/
def opening (auto : Bool) (session : Session) : Except Fault Outcome × Viewing :=
  let (outcome, next) := session.advance
  (outcome, ⟨Screen.opening auto, next⟩)

def update (viewing : Viewing) : Viewing :=
  { viewing with screen := viewing.screen.sync viewing.session }

def tell (viewing : Viewing) (fault : Fault) : Viewing :=
  { viewing with screen := { viewing.screen with status := fault.message } }

def poll (viewing : Viewing) (now : Nat) : Bool × Viewing :=
  let (fires, screen) := viewing.screen.poll viewing.session.config now
  if fires then
    match viewing.session.advance with
    | (.error fault, next) => (true, tell ⟨screen, next⟩ fault)
    | (.ok _, next) => (true, ⟨screen, next⟩)
  else (false, ⟨screen, viewing.session⟩)

def press (viewing : Viewing) (keyPress : KeyPress) : Bool × Viewing :=
  let pressed := viewing.screen.press viewing.session keyPress
  match pressed.quit with
  | .error fault => (false, tell ⟨pressed.screen, pressed.session⟩ fault)
  | .ok quit => (quit, ⟨pressed.screen, pressed.session⟩)

end Viewing
end Playscript
