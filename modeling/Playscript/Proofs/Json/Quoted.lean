import Playscript.Json.Quoted
import Playscript.Json.Value

/-!
A quoted text is read back as that text, whatever characters are in it, and holds no control
character.
-/

namespace Playscript.Json

inductive Escaped (c : Char) : List Char → Prop
  | named {name : Char} : name ≠ 'u' → namedEscape? name = some c.toNat → Escaped c ['\\', name]
  | coded : c.toNat < 0x20 →
      Escaped c ['\\', 'u', '0', '0', hexDigit (c.toNat / 16), hexDigit (c.toNat % 16)]
  | verbatim : 0x20 ≤ c.toNat → c ≠ '"' → c ≠ '\\' → Escaped c [c]

theorem escapeChar_escaped (c : Char) : Escaped c (escapeChar c) := by
  unfold escapeChar
  split
  case h_8 code quote backslash _ _ _ _ _ =>
    split
    · rename_i control
      exact .coded control
    · rename_i above
      refine .verbatim (Nat.le_of_not_lt above) ?_ ?_
      · rintro rfl
        exact quote rfl
      · rintro rfl
        exact backslash rfl
  -- The other cases are the characters that have a name.
  all_goals
    rename_i code
    exact .named (by decide) (by rw [code]; rfl)

theorem hexValue?_control {code : Nat} (control : code < 0x20) :
    hexValue? ['0', '0', hexDigit (code / 16), hexDigit (code % 16)] = some code := by
  have each : ∀ code < 0x20,
      hexValue? ['0', '0', hexDigit (code / 16), hexDigit (code % 16)] = some code := by
    decide
  exact each code control

theorem stringCodes_escaped {c : Char} {written : List Char} (escaped : Escaped c written)
    (rest : List Char) :
    stringCodes (written ++ rest) =
      (stringCodes rest).map fun (codes, after) => (c.toNat :: codes, after) := by
  cases escaped with
  | named notCode named => simp [stringCodes, notCode, named]
  | coded control => simp [stringCodes, hexValue?_control control]
  | verbatim above notQuote notBackslash =>
      simp [stringCodes, notBackslash, Nat.not_lt.mpr above]

theorem stringCodes_flatMap (text rest : List Char) :
    stringCodes (text.flatMap escapeChar ++ '"' :: rest) = some (text.map Char.toNat, rest) := by
  induction text with
  | nil => simp [stringCodes]
  | cons c text ih =>
      rw [List.flatMap_cons, List.append_assoc, stringCodes_escaped (escapeChar_escaped c), ih]
      rfl

theorem charsOfCodes_toNat (text : List Char) :
    charsOfCodes (text.map Char.toNat) = some text := by
  induction text with
  | nil => rfl
  | cons c rest ih =>
      have valid : c.toNat < 0xD800 ∨ 0xDFFF < c.toNat ∧ c.toNat < 0x110000 := c.valid
      have notHigh : isHighSurrogate c.toNat = false := by
        simp only [isHighSurrogate, Bool.and_eq_false_iff, decide_eq_false_iff_not]
        omega
      have notLow : isLowSurrogate c.toNat = false := by
        simp only [isLowSurrogate, Bool.and_eq_false_iff, decide_eq_false_iff_not]
        omega
      rw [List.map_cons]
      unfold charsOfCodes
      simp [notHigh, notLow, ih, Char.ofNat_toNat]

/-- The reader of values gives a quoted text back. -/
theorem parse?_quote (text : String) : parse? (quote text) = some (.string (some text)) := by
  have value : takeValue ((quote text).length + 1) (quote text).toList =
      some (.string (some text), []) := by
    rw [quote, String.toList_ofList, quotedChars, takeValue, skipSpace,
      List.cons_append, List.dropWhile_cons_of_neg (by decide)]
    simp only [stringCodes_flatMap, Option.map_some, stringText, charsOfCodes_toNat,
      String.ofList_toList]
  rw [parse?, value]
  rfl

theorem quote_inj {text other : String} (same : quote text = quote other) : text = other := by
  have read := parse?_quote text
  rw [same, parse?_quote] at read
  simpa using read.symm

theorem hexDigit_printable {value : Nat} (digit : value < 16) : 0x20 ≤ (hexDigit value).toNat := by
  have each : ∀ value < 16, 0x20 ≤ (hexDigit value).toNat := by decide
  exact each value digit

theorem Escaped.printable {c : Char} {written : List Char} (escaped : Escaped c written) :
    ∀ each ∈ written, 0x20 ≤ each.toNat := by
  cases escaped with
  | @named name _ named =>
      have above : 0x20 ≤ name.toNat := by
        unfold namedEscape? at named
        split at named
        all_goals first | decide | contradiction
      simp [above]
  | coded control =>
      have first := hexDigit_printable (by omega : c.toNat / 16 < 16)
      have second := hexDigit_printable (by omega : c.toNat % 16 < 16)
      simp [first, second]
  | verbatim above _ _ => simp [above]

theorem quote_printable (text : String) : ∀ c ∈ (quote text).toList, 0x20 ≤ c.toNat := by
  intro c listed
  simp only [quote, quotedChars, String.toList_ofList, List.mem_append, List.mem_cons,
    List.mem_flatMap, List.not_mem_nil, or_false] at listed
  rcases listed with (rfl | ⟨inner, _, written⟩) | rfl
  · decide
  · exact (escapeChar_escaped inner).printable c written
  · decide

end Playscript.Json
