import Playscript.Graph
import Playscript.Table.Row

/-!
Reading all rows of a script. A row that is refused is reported and left out; a row that takes the
place of an earlier one with its address is reported and kept.
-/

namespace Playscript.Table

inductive Finding where
  | refused (fault : RowFault)
  | replaced (address : Address)
  deriving DecidableEq, Repr

structure Issue where
  line : Nat
  row : String
  finding : Finding
  deriving DecidableEq, Repr

namespace Issue

def skipped (issue : Issue) : Bool :=
  match issue.finding with
  | .refused _ => true
  | .replaced _ => false

def code (issue : Issue) : String :=
  match issue.finding with
  | .refused (.tooFewColumns ..) => "ROW_TOO_FEW_COLUMNS"
  | .refused (.invalidAddress _) => "ROW_INVALID_ADDRESS"
  | .refused (.unknownTag _) => "ROW_UNKNOWN_TAG"
  | .refused (.invalidJump _) => "ROW_INVALID_JUMP"
  | .replaced _ => "ROW_DUPLICATE_ADDRESS"

def message (issue : Issue) : String :=
  match issue.finding with
  | .refused (.tooFewColumns found required) =>
    s!"Row {issue.line} has {found} columns, at least {required} are required."
  | .refused (.invalidAddress cell) =>
    s!"Row {issue.line} address cell \"{cell}\" is not an integer."
  | .refused (.unknownTag tag) => s!"Row {issue.line} uses unrecognized tag \"{tag}\"."
  | .refused (.invalidJump cell) => s!"Row {issue.line} jump cell \"{cell}\" is not an integer."
  | .replaced address =>
    s!"Row {issue.line} redefines address {address}; the earlier row is replaced."

def notice (issue : Issue) : Notice :=
  ⟨.rowParse, issue.code, issue.message, none⟩

end Issue

structure Report where
  graph : Graph
  issues : List Issue

namespace Report

def empty : Report := ⟨Graph.empty, []⟩

def skipped (report : Report) : List Issue :=
  report.issues.filter Issue.skipped

def push (report : Report) (issue : Issue) : Report :=
  { report with issues := report.issues ++ [issue] }

def addRow (config : Config) (report : Report) (line : Nat) (row : String) : Report :=
  match readRow config row with
  | .error fault => report.push ⟨line, row, .refused fault⟩
  | .ok record =>
    let (displaced, graph) := report.graph.replace record
    let next : Report := { report with graph := graph }
    if displaced.isSome then next.push ⟨line, row, .replaced record.address⟩ else next

end Report

/-- A row without the blanks around it. The field delimiter stays even when it is a blank. -/
def trimRow (config : Config) (row : String) : String :=
  String.ofList (Text.strip (fun c => Text.isBlank c && c != config.fieldDelimiter) row.toList)

/-- The rows after the header with their places. Blank rows keep their place but are left out. -/
def dataRows (config : Config) (text : String) : List (Nat × String) :=
  (((rows config text).zipIdx 1).drop (config.headerRow + 1)).filterMap fun (row, line) =>
    let row := trimRow config row
    if row.isEmpty then none else some (line, row)

def parse (config : Config) (text : String) : Report :=
  (dataRows config text).foldl (fun report (line, row) => report.addRow config line row) .empty

/-- A script that can be played: a sound configuration, and a table with a row that gives a record.
-/
def load (config : Config) (text : String) : Except Fault Report := do
  config.validate
  match checkFormat config text with
  | .error cause => throw (.formatRejected cause)
  | .ok _ =>
    let report := parse config text
    if report.graph.isEmpty then throw (.noPlayableRows report.skipped.length)
    return report

end Playscript.Table
