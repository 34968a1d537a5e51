import Playscript.Text.Split

/-!
Names of files and their stems.
-/

namespace Playscript.Text

def fileName (path : String) : String :=
  String.ofList (((pieces (· == '/') path.toList).getLast?).getD [])

/-- A name up to its last dot. A name whose only dot is its first character, or without a dot, is its
own stem. -/
def fileStem (name : String) : String :=
  let before := ((pieces (· == '.') name.toList).dropLast).intersperse ['.']
  let stem := before.flatten
  if stem.isEmpty then name else String.ofList stem

end Playscript.Text
