import Playscript.Table.Rows
import Playscript.Record
import Playscript.Text.Integer

/-!
A row as a record. The row is refused at the first of its parts that is not as it has to be: the
number of its cells, its address, its tag, and its jump unless its tag ends the story.
-/

namespace Playscript.Table

inductive RowFault where
  | tooFewColumns (found required : Nat)
  | invalidAddress (cell : String)
  | unknownTag (tag : String)
  | invalidJump (cell : String)
  deriving DecidableEq, Repr

def cells (config : Config) (row : String) : List String :=
  (rawCells config row).map Text.trim

def cellAt (cells : List String) (column : Nat) : String :=
  cells[column]?.getD ""

def readAddress (cell : String) : Except RowFault Address :=
  match Text.int32? cell with
  | some address => .ok address
  | none => .error (.invalidAddress cell)

def readKind (names : TagNames) (tag : String) : Except RowFault LineKind :=
  match names.kindOf? tag with
  | some kind => .ok kind
  | none => .error (.unknownTag tag)

/-- The jump of a line of this kind. The cell is not looked at when the line ends the story. -/
def readJump (kind : LineKind) (cell : String) : Except RowFault (Option Address) :=
  if kind = .terminate then .ok none
  else
    match Text.int32? cell with
    | some target => .ok (some target)
    | none => .error (.invalidJump cell)

def readVariant (config : Config) (cells : List String) : String :=
  let cell := cellAt cells config.columns.variant
  if cell.isEmpty then config.defaultVariant else cell

def readRow (config : Config) (row : String) : Except RowFault Record := do
  let cells := cells config row
  if cells.length < config.minColumns then
    throw (.tooFewColumns cells.length config.minColumns)
  let address ← readAddress (cellAt cells config.columns.address)
  let tag := normalizeTag (cellAt cells config.columns.tag)
  let kind ← readKind config.tags tag
  let jump ← readJump kind (cellAt cells config.columns.jump)
  return {
    address := address
    tag := tag
    speaker := cellAt cells config.columns.speaker
    body := cellAt cells config.columns.body
    jump := jump
    variant := readVariant config cells }

end Playscript.Table
