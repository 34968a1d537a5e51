/-!
Numbers as they are written in JSON, and the values they stand for. A numeral keeps its digits,
so that `5`, `5.0` and `-0` remain different until a reader asks for one kind of number.
-/

namespace Playscript.Json

/-- A written number: `fraction` and `exponent` are none when the part is not written. -/
structure Numeral where
  negative : Bool
  whole : List Nat
  fraction : Option (List Nat)
  exponent : Option Int
  deriving DecidableEq, Repr

namespace Numeral

def ofDigits (digits : List Nat) : Nat :=
  digits.foldl (fun value digit => 10 * value + digit) 0

def isWhole (numeral : Numeral) : Bool :=
  numeral.fraction.isNone && numeral.exponent.isNone

def count? (numeral : Numeral) : Option Nat :=
  let value := ofDigits numeral.whole
  if numeral.isWhole && !numeral.negative && value < UInt64.size then some value else none

def int32? (numeral : Numeral) : Option Int32 :=
  let magnitude := ofDigits numeral.whole
  if !numeral.isWhole then none
  else if numeral.negative then
    if 0 < magnitude ∧ magnitude ≤ 0x80000000 then some (Int32.ofInt (-magnitude)) else none
  else if magnitude < 0x80000000 then some (Int32.ofInt magnitude)
  else none

structure Scaled where
  significand : Nat
  exponent : Int
  full : Bool

namespace Scaled

def fits (scaled : Scaled) (digit : Nat) : Bool :=
  10 * scaled.significand + digit < UInt64.size

/-- One more digit before the point: kept while all digits fit, counted afterwards. -/
def pushWhole (scaled : Scaled) (digit : Nat) : Scaled :=
  if !scaled.full && scaled.fits digit then
    ⟨10 * scaled.significand + digit, scaled.exponent, false⟩
  else ⟨scaled.significand, scaled.exponent + 1, true⟩

def pushFraction (scaled : Scaled) (digit : Nat) : Scaled :=
  if !scaled.full && scaled.fits digit then
    ⟨10 * scaled.significand + digit, scaled.exponent - 1, false⟩
  else ⟨scaled.significand, scaled.exponent, true⟩

end Scaled

def scaled (numeral : Numeral) : Scaled :=
  let whole := numeral.whole.foldl Scaled.pushWhole ⟨0, 0, false⟩
  let all := (numeral.fraction.getD []).foldl Scaled.pushFraction { whole with full := false }
  { all with exponent := all.exponent + numeral.exponent.getD 0 }

def powerOfTen (exponent : Nat) : Float :=
  Float.ofScientific 1 false exponent

/-- The size as a double, rounded at both steps. None when the number is too large for a double. -/
def Scaled.size? (scaled : Scaled) : Option Float :=
  let value := scaled.significand.toUInt64.toFloat
  if scaled.significand = 0 then some 0
  else if 308 < scaled.exponent then none
  else if 0 ≤ scaled.exponent then
    let size := value * powerOfTen scaled.exponent.toNat
    if size.isInf then none else some size
  else if -308 ≤ scaled.exponent then some (value / powerOfTen (-scaled.exponent).toNat)
  else if -616 ≤ scaled.exponent then
    some (value / powerOfTen 308 / powerOfTen (-scaled.exponent - 308).toNat)
  else some 0

def signed [Neg α] (negative : Bool) (size : α) : α :=
  if negative then -size else size

/-- The nearest single-precision number. Whole numbers of at most 64 bits are rounded once, others
through a double. -/
def single? (numeral : Numeral) : Option Float32 :=
  let magnitude := ofDigits numeral.whole
  if numeral.isWhole && magnitude < (if numeral.negative then 0x8000000000000001 else UInt64.size) then
    some (signed numeral.negative magnitude.toUInt64.toFloat32)
  else
    numeral.scaled.size?.map fun size => (signed numeral.negative size).toFloat32

end Numeral
end Playscript.Json
