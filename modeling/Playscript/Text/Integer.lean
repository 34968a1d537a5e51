/-!
Integers in decimal: an optional sign, then at least one digit. Leading zeros are allowed, blanks
and digit separators are not, and only the digits 0 to 9 count as digits.
-/

namespace Playscript.Text

def digit? (c : Char) : Option Nat :=
  if '0' ≤ c ∧ c ≤ '9' then some (c.toNat - 0x30) else none

/-- The value of `known` followed by the digits of the text, or none at the first other character. -/
def digitsFrom (known : Nat) : List Char → Option Nat
  | [] => some known
  | c :: rest => (digit? c).bind fun digit => digitsFrom (10 * known + digit) rest

def digits? : List Char → Option Nat
  | [] => none
  | c :: rest => digitsFrom 0 (c :: rest)

def integer? : List Char → Option Int
  | '+' :: digits => (digits? digits).map Int.ofNat
  | '-' :: digits => (digits? digits).map fun magnitude => -Int.ofNat magnitude
  | digits => (digits? digits).map Int.ofNat

def int32? (text : String) : Option Int32 :=
  (integer? text.toList).bind fun value =>
    if Int32.minValue.toInt ≤ value ∧ value ≤ Int32.maxValue.toInt then some (Int32.ofInt value)
    else none

def count? (text : String) : Option Nat :=
  let digits :=
    match text.toList with
    | '+' :: digits => digits
    | digits => digits
  (digits? digits).bind fun value => if value < UInt64.size then some value else none

end Playscript.Text
