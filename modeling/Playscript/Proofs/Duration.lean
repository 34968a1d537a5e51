import Mathlib.Algebra.Group.Nat.Defs
import Mathlib.Tactic.WLOG
import Playscript.Config

/-!
How long a span is that was given in seconds: the nearest whole number of nanoseconds, and the even
one of two that are equally near. No span is longer than a clock of 64 bits of seconds can count.
-/

namespace Playscript.Duration

/-- The whole number nearest to a quotient, and the even one on a tie. -/
structure Nearest (numerator denominator whole : Nat) : Prop where
  above : 2 * numerator ≤ 2 * (whole * denominator) + denominator
  below : 2 * (whole * denominator) ≤ 2 * numerator + denominator
  even : 2 * numerator = 2 * (whole * denominator) + denominator ∨
    2 * (whole * denominator) = 2 * numerator + denominator → whole % 2 = 0

theorem roundQuotient_nearest (numerator : Nat) {denominator : Nat} (positive : 0 < denominator) :
    Nearest numerator denominator (roundQuotient numerator denominator) := by
  have division := Nat.div_add_mod' numerator denominator
  have less := Nat.mod_lt numerator positive
  simp only [roundQuotient]
  generalize numerator / denominator = whole at division ⊢
  generalize numerator % denominator = rest at division less ⊢
  by_cases down : 2 * rest < denominator ∨ 2 * rest = denominator ∧ whole % 2 = 0
  · rw [if_pos down]
    exact ⟨by omega, by omega, by omega⟩
  · rw [if_neg down]
    have next : (whole + 1) * denominator = whole * denominator + denominator :=
      Nat.succ_mul whole denominator
    exact ⟨by omega, by omega, by omega⟩

theorem Nearest.unique {numerator denominator one other : Nat} (positive : 0 < denominator)
    (first : Nearest numerator denominator one) (second : Nearest numerator denominator other) :
    one = other := by
  wlog order : one ≤ other generalizing one other
  · exact (this second first (Nat.le_of_not_le order)).symm
  obtain ⟨gap, rfl⟩ := Nat.exists_eq_add_of_le order
  have spread := Nat.add_mul one gap denominator
  have above := first.above
  have below := second.below
  rw [spread] at below
  -- The two are at most one apart, and then both are equally near.
  match gap with
  | 0 => rfl
  | 1 =>
      have evenOne := first.even (.inl (by omega))
      have evenOther := second.even (.inr (by omega))
      omega
  | gap + 2 =>
      have apart := Nat.add_mul gap 2 denominator
      omega

theorem roundQuotient_eq_iff {numerator denominator whole : Nat} (positive : 0 < denominator) :
    roundQuotient numerator denominator = whole ↔ Nearest numerator denominator whole := by
  constructor
  · rintro rfl
    exact roundQuotient_nearest numerator positive
  · exact (roundQuotient_nearest numerator positive).unique positive

theorem ofScaled_nearest (significand : Nat) {exponent : Nat} (fraction : exponent < 150) :
    Nearest (significand * 1000000000) (2 ^ (150 - exponent))
      (ofScaled significand exponent).nanoseconds := by
  have scale : 1 <<< (150 - exponent) = 2 ^ (150 - exponent) := Nat.one_shiftLeft _
  rw [ofScaled, if_neg (Nat.not_le.mpr fraction), scale]
  exact roundQuotient_nearest _ (Nat.two_pow_pos _)

theorem ofScaled_lt {significand : Nat} (exponent : Nat) (within : significand < 0x1000000) :
    (ofScaled significand exponent).nanoseconds < UInt64.size * 1000000000 := by
  have size : UInt64.size = 2 ^ 64 := rfl
  by_cases whole : 150 ≤ exponent
  · simp only [ofScaled, whole, if_true]
    split <;> simp only [zero] <;> omega
  · have near := (ofScaled_nearest significand (Nat.not_le.mp whole)).below
    generalize (ofScaled significand exponent).nanoseconds = span at near ⊢
    have positive := Nat.two_pow_pos (150 - exponent)
    generalize 2 ^ (150 - exponent) = scale at near positive
    refine Nat.lt_of_not_le fun long => ?_
    have grows := Nat.mul_le_mul_right scale long
    rw [size] at grows
    omega

theorem ofSeconds_lt (value : Float32) :
    (ofSeconds value).nanoseconds < UInt64.size * 1000000000 := by
  have size : UInt64.size = 2 ^ 64 := rfl
  have fraction : value.toBits.toNat % 0x800000 < 0x800000 := Nat.mod_lt _ (by decide)
  simp only [ofSeconds]
  split
  · simp only [zero]
    omega
  · split
    · exact ofScaled_lt 1 (by omega)
    · exact ofScaled_lt _ (by omega)

example : Config.revealStep {} = ⟨25000000⟩ ∧ Config.autoPlayHold {} 10 = ⟨1500000000⟩ := by
  decide +kernel

end Playscript.Duration
