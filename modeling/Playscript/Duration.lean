/-!
Spans of time in whole nanoseconds.
-/

namespace Playscript

structure Duration where
  nanoseconds : Nat
  deriving DecidableEq, Repr, Inhabited

namespace Duration

def zero : Duration := ⟨0⟩

def roundQuotient (numerator denominator : Nat) : Nat :=
  let whole := numerator / denominator
  let twice := 2 * (numerator % denominator)
  if twice < denominator ∨ (twice = denominator ∧ whole % 2 = 0) then whole else whole + 1

/-- The nanoseconds of `significand * 2 ^ (exponent - 150)` seconds; none from 2 ^ 64 seconds on. -/
def ofScaled (significand exponent : Nat) : Duration :=
  if 150 ≤ exponent then
    let whole := significand <<< (exponent - 150)
    if whole < UInt64.size then ⟨whole * 1000000000⟩ else zero
  else
    ⟨roundQuotient (significand * 1000000000) (1 <<< (150 - exponent))⟩

/-- Seconds to the nearest nanosecond. What is not a positive finite number, or too long to count,
is no time at all. -/
def ofSeconds (value : Float32) : Duration :=
  let bits := value.toBits.toNat
  let exponent := bits >>> 23
  let fraction := bits % 0x800000
  if 255 ≤ exponent then zero
  else if exponent = 0 then ofScaled fraction 1
  else ofScaled (0x800000 + fraction) exponent

end Duration
end Playscript
