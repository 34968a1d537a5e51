import Playscript.Text.Utf8

/-!
Texts by the indices of their bytes. A text is cut before a byte only where that leaves every
character whole.
-/

namespace Playscript.Text

/-- A byte that goes on with a character that an earlier byte has begun. -/
def continues (byte : UInt8) : Bool :=
  0x80 ≤ byte && byte < 0xC0

/-- Whether an index falls between two characters, or at an end of the text. -/
def fallsBetween (bytes : List UInt8) (index : Nat) : Bool :=
  index == 0 ||
    match bytes[index]? with
    | some byte => !continues byte
    | none => index == bytes.length

def before? (text : String) (index : Nat) : Option String :=
  if fallsBetween (encodeUtf8 text) index then decodeUtf8? ((encodeUtf8 text).take index) else none

def indexedFrom (index : Nat) : List Char → List (Nat × Char)
  | [] => []
  | c :: rest => (index, c) :: indexedFrom (index + c.utf8Size) rest

def indexed (text : String) : List (Nat × Char) :=
  indexedFrom 0 text.toList

end Playscript.Text
