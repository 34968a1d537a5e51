/-!
Splitting a text at the characters of a class. Every break separates two pieces, so there is one
piece more than there are breaks, and pieces may be empty.
-/

namespace Playscript.Text

def pieces (isBreak : Char → Bool) : List Char → List (List Char)
  | [] => [[]]
  | c :: rest =>
    if isBreak c then [] :: pieces isBreak rest
    else
      match pieces isBreak rest with
      | [] => [[c]]
      | piece :: more => (c :: piece) :: more

def dropReturn (line : List Char) : List Char :=
  if line.getLast? = some '\r' then line.dropLast else line

/-- The lines of a text without their breaks. What stands after the last break is a line unless it
is empty. -/
def lines (text : List Char) : List (List Char) :=
  let all := pieces (· == '\n') text
  let last := (all.getLast?).getD []
  all.dropLast.map dropReturn ++ (if last.isEmpty then [] else [last])

end Playscript.Text
