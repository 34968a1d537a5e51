import Playscript.Config
import Playscript.Text.Split

/-!
A script text as rows, and the check of its shape that comes before any row is read. Rows end at
the line delimiter or at a carriage return; empty rows are not rows.
-/

namespace Playscript.Table

def endsRow (config : Config) (c : Char) : Bool :=
  c == config.lineDelimiter || c == '\r'

def rows (config : Config) (text : String) : List String :=
  ((Text.pieces (endsRow config) text.toList).filter fun row => !row.isEmpty).map String.ofList

def rawCells (config : Config) (row : String) : List String :=
  (Text.pieces (· == config.fieldDelimiter) row.toList).map String.ofList

/-- The number of rows after the header, or why the text is not a table. -/
def checkFormat (config : Config) (text : String) : Except FormatFault Nat :=
  if text.isEmpty then .error .emptyText
  else
    let rows := rows config text
    let dataRows := rows.length - (config.headerRow + 1)
    match rows[config.headerRow]? with
    | none => .error (.noDataRows rows.length)
    | some header =>
      if dataRows = 0 then .error (.noDataRows rows.length)
      else
        let found := (rawCells config header).length
        if found < config.minColumns then .error (.narrowHeader found config.minColumns)
        else .ok dataRows

def passedReason (dataRows : Nat) : String :=
  s!"Format check passed ({dataRows} data rows)."

end Playscript.Table
