import Playscript.Text.ByteIndex

/-!
The units in which a text is revealed: how many a text has, and the part of it that its first
units cover.
-/

namespace Playscript

structure Units where
  measure : String → Nat
  leading : String → Nat → String

namespace Units

def charCount (text : String) : Nat := text.toList.length

def charLeading (text : String) (count : Nat) : String :=
  String.ofList (text.toList.take count)

/-- The text before the first byte of the character at `count`, or all of it when it has no such
character. -/
def charCut? (text : String) (count : Nat) : Option String :=
  match (Text.indexed text)[count]? with
  | some (index, _) => Text.before? text index
  | none => some text

def chars : Units := ⟨charCount, charLeading⟩

/-- One unit is two characters, and the last may be one. -/
def pairs : Units :=
  ⟨fun text => (charCount text + 1) / 2, fun text count => charLeading text (2 * count)⟩

end Units
end Playscript
