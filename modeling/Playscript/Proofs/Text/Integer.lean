import Playscript.Text.Integer

/-!
Integers as they are written: digits, with a sign before them or without, and nothing else. The
reader accepts exactly these texts, as far as their value fits.
-/

namespace Playscript.Text

structure Decimal (digits : List Char) (value : Nat) : Prop where
  written : digits ≠ []
  digit : ∀ c ∈ digits, c.isDigit = true
  value : Nat.ofDigitChars 10 digits 0 = value

/-- How an integer may be written. -/
inductive Spells : List Char → Int → Prop
  | plain {digits : List Char} {value : Nat} : Decimal digits value → Spells digits value
  | plus {digits : List Char} {value : Nat} : Decimal digits value → Spells ('+' :: digits) value
  | minus {digits : List Char} {value : Nat} :
      Decimal digits value → Spells ('-' :: digits) (-value)

theorem code_of_isDigit {c : Char} (digit : c.isDigit = true) : 48 ≤ c.toNat ∧ c.toNat ≤ 57 := by
  simp only [Char.isDigit, ge_iff_le, Bool.and_eq_true, decide_eq_true_eq,
    UInt32.le_iff_toNat_le] at digit
  exact digit

theorem digit?_eq_some_iff (c : Char) (value : Nat) :
    digit? c = some value ↔ c.isDigit = true ∧ c.toNat - '0'.toNat = value := by
  have same : ('0' ≤ c ∧ c ≤ '9') ↔ c.isDigit = true := by
    simp [Char.isDigit, Char.le_def]
  rw [← same]
  by_cases digit : '0' ≤ c ∧ c ≤ '9'
  · simp [digit?, digit]
  · simp [digit?, digit]

theorem digitsFrom_eq_some_iff (known : Nat) (digits : List Char) (value : Nat) :
    digitsFrom known digits = some value ↔
      (∀ c ∈ digits, c.isDigit = true) ∧ Nat.ofDigitChars 10 digits known = value := by
  induction digits generalizing known with
  | nil => simp [digitsFrom]
  | cons c rest ih =>
      simp only [digitsFrom, Option.bind_eq_some_iff, digit?_eq_some_iff, ih,
        Nat.ofDigitChars_cons, List.forall_mem_cons]
      constructor
      · rintro ⟨_, ⟨digit, rfl⟩, digits, value⟩
        exact ⟨⟨digit, digits⟩, value⟩
      · rintro ⟨⟨digit, digits⟩, value⟩
        exact ⟨_, ⟨digit, rfl⟩, digits, value⟩

theorem digits?_eq_some_iff (digits : List Char) (value : Nat) :
    digits? digits = some value ↔ Decimal digits value := by
  cases digits with
  | nil =>
      constructor
      · intro read
        contradiction
      · intro decimal
        exact absurd rfl decimal.written
  | cons c rest =>
      rw [digits?, digitsFrom_eq_some_iff]
      exact ⟨fun ⟨digit, value⟩ => ⟨List.cons_ne_nil c rest, digit, value⟩,
        fun decimal => ⟨decimal.digit, decimal.value⟩⟩

theorem Decimal.head_ne {digits rest : List Char} {value : Nat} {sign : Char}
    (decimal : Decimal digits value) (noDigit : sign.isDigit = false) : digits ≠ sign :: rest := by
  rintro rfl
  have digit := decimal.digit sign List.mem_cons_self
  rw [noDigit] at digit
  contradiction

theorem integer?_eq_some_iff (text : List Char) (value : Int) :
    integer? text = some value ↔ Spells text value := by
  constructor
  · intro read
    unfold integer? at read
    split at read
    · obtain ⟨magnitude, digits, rfl⟩ := Option.map_eq_some_iff.mp read
      exact .plus ((digits?_eq_some_iff _ _).mp digits)
    · obtain ⟨magnitude, digits, rfl⟩ := Option.map_eq_some_iff.mp read
      exact .minus ((digits?_eq_some_iff _ _).mp digits)
    · obtain ⟨magnitude, digits, rfl⟩ := Option.map_eq_some_iff.mp read
      exact .plain ((digits?_eq_some_iff _ _).mp digits)
  · intro spells
    cases spells with
    | plus decimal => simp [integer?, (digits?_eq_some_iff _ _).mpr decimal]
    | minus decimal => simp [integer?, (digits?_eq_some_iff _ _).mpr decimal]
    | plain decimal =>
        unfold integer?
        split
        · exact absurd rfl (decimal.head_ne (by decide))
        · exact absurd rfl (decimal.head_ne (by decide))
        · simp [(digits?_eq_some_iff _ _).mpr decimal]

theorem int32?_eq_some_iff (text : String) (value : Int32) :
    int32? text = some value ↔ Spells text.toList value.toInt := by
  have lower : Int32.minValue.toInt = -2147483648 := by decide
  have upper : Int32.maxValue.toInt = 2147483647 := by decide
  simp only [int32?, Option.bind_eq_some_iff, integer?_eq_some_iff, lower, upper]
  constructor
  · rintro ⟨read, spells, fits⟩
    split at fits
    · rename_i bounds
      obtain rfl := Option.some.inj fits
      rw [Int32.toInt_ofInt_of_le bounds.1 (by omega)]
      exact spells
    · contradiction
  · intro spells
    have above := Int32.le_toInt value
    have below := Int32.toInt_lt value
    refine ⟨value.toInt, spells, ?_⟩
    rw [if_pos (by omega), Int32.ofInt_toInt]

/-- A text that is an integer of 32 bits, however many zeros stand before its digits. -/
def SpellsInt32 (text : String) : Prop :=
  ∃ value : Int, Spells text.toList value ∧ -2147483648 ≤ value ∧ value ≤ 2147483647

theorem exists_int32?_iff (text : String) :
    (∃ value, int32? text = some value) ↔ SpellsInt32 text := by
  simp only [int32?_eq_some_iff]
  constructor
  · rintro ⟨value, spells⟩
    have above := Int32.le_toInt value
    have below := Int32.toInt_lt value
    exact ⟨value.toInt, spells, above, by omega⟩
  · rintro ⟨value, spells, above, below⟩
    refine ⟨Int32.ofInt value, ?_⟩
    rw [Int32.toInt_ofInt_of_le above (by omega)]
    exact spells

theorem int32?_eq_none_iff (text : String) : int32? text = none ↔ ¬SpellsInt32 text := by
  rw [← exists_int32?_iff, ← Option.isSome_iff_exists, Option.not_isSome_iff_eq_none]

theorem decimal_toDigits (value : Nat) : Decimal (Nat.toDigits 10 value) value where
  written := Nat.toDigits_ne_nil
  digit _ listed := Nat.isDigit_of_mem_toDigits (by decide) (by decide) listed
  value := Nat.ofDigitChars_ten_toDigits

theorem toList_toString (value : Nat) : (toString value).toList = Nat.toDigits 10 value := by
  rw [Nat.toString_eq_ofList_toDigits, String.toList_ofList]

theorem isDigit_of_mem_toString {value : Nat} {c : Char} (listed : c ∈ (toString value).toList) :
    c.isDigit = true := by
  rw [toList_toString] at listed
  exact (decimal_toDigits value).digit c listed

theorem spells_toString (value : Int) : Spells (toString value).toList value := by
  cases value with
  | ofNat size =>
      have written : (toString (Int.ofNat size)).toList = Nat.toDigits 10 size := toList_toString size
      rw [written]
      exact .plain (decimal_toDigits size)
  | negSucc size =>
      have written : (toString (Int.negSucc size)).toList = '-' :: Nat.toDigits 10 (size + 1) := by
        rw [← toList_toString]
        simp [toString, Int.repr]
      rw [written]
      exact .minus (decimal_toDigits (size + 1))

theorem int32?_toString (value : Int32) : int32? (toString value) = some value :=
  (int32?_eq_some_iff _ _).mpr (spells_toString value.toInt)

theorem toDigits_inj {value other : Nat} (same : Nat.toDigits 10 value = Nat.toDigits 10 other) :
    value = other := by
  have read := (decimal_toDigits value).value
  rw [same, (decimal_toDigits other).value] at read
  exact read.symm

theorem count?_toString {value : Nat} (fits : value < UInt64.size) :
    count? (toString value) = some value := by
  have decimal := decimal_toDigits value
  have read := (digits?_eq_some_iff _ _).mpr decimal
  rw [count?, toList_toString]
  split
  · rename_i rest signed
    exact absurd signed (decimal.head_ne (by decide))
  · simp [read, fits]

end Playscript.Text
