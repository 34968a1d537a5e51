/-!
UTF-8 and lines of bytes. Decoding goes byte by byte: after a leading byte some bytes are owed,
and the first of them has a range of its own, which keeps out overlong forms, surrogates and
values past the last code point.
-/

namespace Playscript.Text

/-- What is still owed of a character: how many bytes, the range of the next, and the bits so far. -/
structure Owed where
  count : Nat
  low : Nat
  high : Nat
  bits : Nat

def Owed.ofLeading? (byte : Nat) : Option Owed :=
  if 0xC2 ≤ byte ∧ byte ≤ 0xDF then some ⟨1, 0x80, 0xBF, byte - 0xC0⟩
  else if byte = 0xE0 then some ⟨2, 0xA0, 0xBF, 0⟩
  else if byte = 0xED then some ⟨2, 0x80, 0x9F, 0xD⟩
  else if 0xE1 ≤ byte ∧ byte ≤ 0xEF then some ⟨2, 0x80, 0xBF, byte - 0xE0⟩
  else if byte = 0xF0 then some ⟨3, 0x90, 0xBF, 0⟩
  else if 0xF1 ≤ byte ∧ byte ≤ 0xF3 then some ⟨3, 0x80, 0xBF, byte - 0xF0⟩
  else if byte = 0xF4 then some ⟨3, 0x80, 0x8F, 4⟩
  else none

def decodeFrom : Option Owed → List UInt8 → Option (List Char)
  | none, [] => some []
  | some _, [] => none
  | none, byte :: rest =>
    if byte.toNat < 0x80 then (decodeFrom none rest).map (Char.ofNat byte.toNat :: ·)
    else (Owed.ofLeading? byte.toNat).bind fun owed => decodeFrom (some owed) rest
  | some owed, byte :: rest =>
    if owed.low ≤ byte.toNat ∧ byte.toNat ≤ owed.high then
      let bits := 0x40 * owed.bits + (byte.toNat - 0x80)
      if owed.count ≤ 1 then (decodeFrom none rest).map (Char.ofNat bits :: ·)
      else decodeFrom (some ⟨owed.count - 1, 0x80, 0xBF, bits⟩) rest
    else none

def decodeUtf8? (bytes : List UInt8) : Option String :=
  (decodeFrom none bytes).map String.ofList

def encodeUtf8 (text : String) : List UInt8 :=
  text.toUTF8.toList

def byteLines : List UInt8 → List (List UInt8)
  | [] => []
  | byte :: rest =>
    if byte = 0x0A then [byte] :: byteLines rest
    else
      match byteLines rest with
      | [] => [[byte]]
      | line :: more => (byte :: line) :: more

end Playscript.Text
