import Playscript.Screen.Keys
import Playscript.Text.Split

/-!
The picture that the full-screen player draws: styled lines from top to bottom, each cut or wrapped
to the width of the content.
-/

namespace Playscript.Screen

inductive Colour where
  | reset
  | gray
  | cyan
  | magenta
  | green
  | yellow
  deriving DecidableEq, Repr, Inhabited

/-- A line of the picture. No cluster reaches from one of its spans into the next. -/
structure Line where
  spans : List String
  colour : Colour := .reset
  deriving DecidableEq, Repr, Inhabited

namespace Line

def span (colour : Colour) (text : String) : Line := ⟨[text], colour⟩

/-- A text without a style. Line breaks in it only end its spans. -/
def plain (text : String) : Line := ⟨(Text.lines text.toList).map String.ofList, .reset⟩

end Line

def ellipsis : Char := '…'

def truncated (width : Nat) (text : List Char) : List Char :=
  if text.length ≤ width then text
  else if width ≤ 1 then [ellipsis].take width
  else text.take (width - 1) ++ [ellipsis]

def truncate (width : Nat) (text : String) : String :=
  String.ofList (truncated width text.toList)

/-- Cuts a list into pieces of this length. `room` is what is left of the piece at hand. -/
def chunks (width room : Nat) : List Char → List (List Char)
  | [] => [[]]
  | c :: rest =>
    match room with
    | 0 => [] :: (chunks width (width - 1) rest).modifyHead (c :: ·)
    | room + 1 => (chunks width room rest).modifyHead (c :: ·)

def wrapped (width : Nat) (text : List Char) : List (List Char) :=
  if width = 0 then [[]] else chunks width width text

def wrap (width : Nat) (text : String) : List String :=
  (wrapped width text.toList).map String.ofList

def lastRows (count : Nat) (rows : List String) : List String :=
  rows.drop (rows.length - count)

def keyHints : String :=
  "keys: enter/space next | up/down choose | a auto | h history | r restart | ? help | q quit"

def helpLine : String :=
  "enter while text is still appearing shows it in full. auto-play pauses at choices."

def contentWidth (width : Nat) : Nat := max (width - 2) 16

/-- The rows that the body may take: what all other parts of the picture leave over. -/
def bodyRows (height : Nat) : Nat := max (height - (4 + menuRows + 3)) 1

def statusLine (screen : Screen) : String :=
  s!"status: {screen.status} | auto: " ++ (if screen.auto.enabled then "on" else "off")

def portraitText (screen : Screen) : String :=
  match screen.portrait with
  | some asset => if screen.avatar then "[" ++ asset ++ "]" else "(" ++ asset ++ ")"
  | none => " "

def historyPanel (history : List String) (width rows : Nat) : List Line :=
  .span .magenta "history (h to close)" ::
    (lastRows rows (history.flatMap (wrap width))).map Line.plain

def linePanel (screen : Screen) (width rows : Nat) : List Line :=
  .span .gray (truncate width screen.portraitText) :: .span .cyan (truncate width screen.label) ::
    (lastRows rows (wrap width screen.visibleText)).map Line.plain

def menuLine (screen : Screen) (width place : Nat) : Line :=
  let index := screen.scroll + place
  match if screen.revealing then none else screen.choices[index]? with
  | none => .plain " "
  | some (_, text) =>
    let shown := truncate (max (width - 2) 8) text
    if index = screen.selected then .span .green ("> " ++ shown) else .span .reset ("  " ++ shown)

def menu (screen : Screen) (width : Nat) : List Line :=
  (List.range menuRows).map (screen.menuLine width)

def picture (screen : Screen) (title : String) (history : List String) (width height : Nat) :
    List Line :=
  let content := contentWidth width
  [.plain (truncate content title), .span .gray (truncate content screen.statusLine)] ++
    (if screen.historyOpen then historyPanel history content (bodyRows height)
      else screen.linePanel content (bodyRows height)) ++
    [.span .gray (String.ofList (List.replicate content '─'))] ++
    screen.menu content ++
    (if screen.ended then [.span .green "[end]"] else []) ++
    [.span .yellow (truncate content keyHints)] ++
    (if screen.helpOpen then [.span .magenta (truncate content helpLine)] else [])

end Playscript.Screen
