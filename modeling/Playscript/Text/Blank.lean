/-!
Blank characters and trimming. A character is blank when Unicode gives it the property
White_Space; trimming removes a class of characters from both ends and from nowhere else.
-/

namespace Playscript.Text

/-- The characters with the Unicode property White_Space. -/
def isBlank (c : Char) : Bool :=
  let code := c.toNat
  (0x9 ≤ code && code ≤ 0xD) || code == 0x20 || code == 0x85 || code == 0xA0 ||
    code == 0x1680 || (0x2000 ≤ code && code ≤ 0x200A) || code == 0x2028 || code == 0x2029 ||
    code == 0x202F || code == 0x205F || code == 0x3000

def dropEnd (removed : Char → Bool) (text : List Char) : List Char :=
  (text.reverse.dropWhile removed).reverse

def strip (removed : Char → Bool) (text : List Char) : List Char :=
  dropEnd removed (text.dropWhile removed)

def trim (text : String) : String :=
  String.ofList (strip isBlank text.toList)

end Playscript.Text
