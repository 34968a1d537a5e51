import Playscript.Player.Session

/-!
Playing without a reader up to the next boundary: a menu or the end. A script that shows too many
lines without reaching one is taken to go round in circles.
-/

namespace Playscript

structure ShownLine where
  address : Address
  label : String
  text : String
  deriving DecidableEq, Repr, Inhabited

inductive BoundaryKind where
  | choices (options : List (Nat × String))
  | ended
  deriving DecidableEq, Repr, Inhabited

structure Boundary where
  lines : List ShownLine
  kind : BoundaryKind
  deriving DecidableEq, Repr, Inhabited

namespace Boundary

def options (boundary : Boundary) : List (Nat × String) :=
  match boundary.kind with
  | .choices options => options
  | .ended => []

def addLine (line : ShownLine) (boundary : Boundary) : Boundary :=
  { boundary with lines := line :: boundary.lines }

end Boundary

namespace Session

/-- The number of outcomes that are looked at before the search for a boundary is given up. -/
def stepLimit : Nat := 10000

def shownLine (session : Session) (address : Address) : ShownLine :=
  ⟨address, session.playback.view.label, session.playback.view.body⟩

abbrev Runner := Session → Except Fault Boundary × Session

/-- Takes in an outcome. A line is shown in full and put before what the rest of the run gives. -/
def settle (rest : Runner) (session : Session) : Outcome → Except Fault Boundary × Session
  | .line address _ =>
    let shown := session.skip.2
    let (boundary, final) := rest shown
    (boundary.map (Boundary.addLine (shown.shownLine address)), final)
  | .choices options =>
    (.ok ⟨[], .choices (options.map fun option => (option.index, option.label))⟩, session)
  | .ended => (.ok ⟨[], .ended⟩, session)

def settleResult (rest : Runner) : Except Fault Outcome × Session → Except Fault Boundary × Session
  | (.error fault, session) => (.error fault, session)
  | (.ok outcome, session) => session.settle rest outcome

def runFor : Nat → Runner
  | 0, session => (.error (.stepLimit stepLimit), session)
  | steps + 1, session => settleResult (runFor steps) session.advance

def runToBoundary (session : Session) : Except Fault Boundary × Session :=
  runFor stepLimit session

def chooseToBoundary (session : Session) (index : Nat) : Except Fault Boundary × Session :=
  settleResult (runFor (stepLimit - 1)) (session.choose index)

end Session
end Playscript
