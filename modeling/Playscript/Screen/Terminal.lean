import Playscript.Screen.Picture
import Playscript.Text.Blank
import Playscript.Text.Cell
import Playscript.Text.Cluster

/-!
How a terminal shows a picture. A line that fits has a row of its own, and two when it is blank but
not empty. A line that fills the terminal is broken between its words, or inside a word that is
wider than a row. What is below the last row is cut.
-/

namespace Playscript.Screen

structure Symbol where
  text : List Char
  width : Nat
  deriving DecidableEq, Repr, Inhabited

namespace Symbol

def ofCluster (cluster : List Char) : Symbol := ⟨cluster, Text.cellWidth cluster⟩

/-- Blanks as the terminal counts them: the no-break space is none, the zero-width space is one. -/
def isBlank (symbol : Symbol) : Bool :=
  symbol.text == [Char.ofNat 0x200B] ||
    (symbol.text.all Text.isBlank && symbol.text != [Char.ofNat 0xA0])

end Symbol

def totalWidth (symbols : List Symbol) : Nat :=
  symbols.foldr (fun symbol total => symbol.width + total) 0

def spanSymbols (span : String) : List Symbol :=
  ((Text.clusters span.toList).filter (· != ['\n'])).map Symbol.ofCluster

/-- A line being broken: full rows, the row at hand, and blanks and a word that have no row yet. -/
structure Breaking where
  rows : List (List Symbol) := []
  row : List Symbol := []
  blanks : List Symbol := []
  word : List Symbol := []
  inWord : Bool := false

namespace Breaking

def join (breaking : Breaking) : Breaking :=
  { breaking with row := breaking.row ++ breaking.blanks ++ breaking.word, blanks := [], word := [] }

def dropBlanks (room : Nat) : List Symbol → List Symbol
  | [] => []
  | blank :: rest =>
    if blank.width ≤ room then dropBlanks (room - blank.width) rest else blank :: rest

/-- Begins a new row. Blanks that would still fit on the old row are left out. -/
def newRow (width : Nat) (breaking : Breaking) : Breaking :=
  { breaking with
    rows := breaking.rows ++ [breaking.row]
    row := []
    blanks := dropBlanks (width - totalWidth breaking.row) breaking.blanks }

def add (symbol : Symbol) (breaking : Breaking) : Breaking :=
  if symbol.isBlank then { breaking with blanks := breaking.blanks ++ [symbol], inWord := false }
  else { breaking with word := breaking.word ++ [symbol], inWord := true }

/-- Whether the blanks and the word go on the row before this symbol: the word has ended, or fills
the row. -/
def joins (width : Nat) (breaking : Breaking) (symbol : Symbol) : Bool :=
  (breaking.inWord && symbol.isBlank) ||
    (breaking.row.isEmpty &&
      width < totalWidth breaking.word + totalWidth breaking.blanks + symbol.width)

def overflows (width : Nat) (breaking : Breaking) (symbol : Symbol) : Bool :=
  width ≤ totalWidth breaking.row ||
    (0 < symbol.width &&
      width ≤ totalWidth breaking.row + totalWidth breaking.blanks + totalWidth breaking.word)

def push (width : Nat) (breaking : Breaking) (symbol : Symbol) : Breaking :=
  let joined := if breaking.joins width symbol then breaking.join else breaking
  if joined.overflows width symbol then
    let broken := joined.newRow width
    if symbol.isBlank && broken.blanks.isEmpty then broken else broken.add symbol
  else joined.add symbol

/-- All rows at the end of the line. Blanks that are left over have an empty row before their own. -/
def finish (breaking : Breaking) : List (List Symbol) :=
  let onlyBlanks := breaking.row.isEmpty && breaking.word.isEmpty && !breaking.blanks.isEmpty
  let last := breaking.join.row
  breaking.rows ++ (if onlyBlanks then [[]] else []) ++ (if last.isEmpty then [] else [last])

end Breaking

def brokenRows (width : Nat) (symbols : List Symbol) : List (List Symbol) :=
  (symbols.foldl (Breaking.push width) {}).finish

def terminalRows (width : Nat) (symbols : List Symbol) : List (List Symbol) :=
  if width ≤ totalWidth symbols then brokenRows width symbols
  else if !symbols.isEmpty && symbols.all Symbol.isBlank then [[], symbols]
  else [symbols]

structure Row where
  text : String
  colour : Colour
  deriving DecidableEq, Repr, Inhabited

def Row.blank : Row := ⟨"", .reset⟩

/-- A row as it is drawn, without the spaces at its end and without what takes no cell. -/
def drawRow (colour : Colour) (symbols : List Symbol) : Row :=
  let drawn := symbols.filter fun symbol => 0 < symbol.width
  ⟨String.ofList (Text.dropEnd (· == ' ') (drawn.flatMap Symbol.text)),
    if drawn.isEmpty then .reset else colour⟩

def rowsOf (width : Nat) (line : Line) : List Row :=
  let symbols := (line.spans.flatMap spanSymbols).filter fun symbol => symbol.width ≤ width
  (terminalRows width symbols).map (drawRow line.colour)

def draw (width height : Nat) (lines : List Line) : List Row :=
  let rows := if width = 0 then [] else (lines.flatMap (rowsOf width)).take height
  rows ++ List.replicate (height - rows.length) Row.blank

end Playscript.Screen
