import Playscript.AutoPlay
import Playscript.Player.Session

/-!
The full-screen player's picture of a session, as it was when the two were last brought together,
and what belongs to the screen alone.
-/

namespace Playscript

structure Screen where
  label : String := ""
  visibleText : String := ""
  portrait : Option String := none
  avatar : Bool := false
  revealing : Bool := false
  units : Nat := 0
  choices : List (Nat × String) := []
  selected : Nat := 0
  scroll : Nat := 0
  ended : Bool := false
  historyOpen : Bool := false
  helpOpen : Bool := false
  status : String := ""
  auto : AutoPlay := ⟨false, none⟩
  deriving DecidableEq, Repr, Inhabited

namespace Screen

def opening (auto : Bool) : Screen :=
  { status := "ready", auto := ⟨auto, none⟩ }

/-- Brings the picture up to date. Where there was no menu before, the selection begins at the top. -/
def sync (screen : Screen) (session : Session) : Screen :=
  let playback := session.playback
  let choices := playback.pending.map fun option => (option.index, option.label)
  let fresh := choices.isEmpty || screen.choices.isEmpty
  { screen with
    label := playback.view.label
    visibleText := session.visibleText
    portrait := playback.view.portrait.map Portrait.asset
    avatar := playback.view.avatar
    revealing := playback.isRevealing
    units := (playback.reveal.map fun reveal => reveal.progress.total).getD 0
    choices := choices
    selected := if fresh then 0 else screen.selected
    scroll := if fresh then 0 else screen.scroll
    ended := playback.phase == .terminated }

/-- A line that is fully shown with nothing else to do: the moment at which the player may move on
by itself. -/
def settled (screen : Screen) : Bool :=
  !screen.revealing && screen.choices.isEmpty && !screen.ended

def poll (screen : Screen) (config : Config) (now : Nat) : Bool × Screen :=
  let (fires, auto) := screen.auto.poll config now screen.settled screen.units
  (fires, { screen with auto := auto })

end Screen
end Playscript
