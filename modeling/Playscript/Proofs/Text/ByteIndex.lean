import Playscript.Proofs.Text.Utf8
import Playscript.Text.ByteIndex

/-!
An index falls between two characters of a text exactly if the text is made of two texts, of which
the first has that many bytes. There a text can be cut before a byte, and nowhere else; the first
byte of each of its characters stands at such an index.
-/

namespace Playscript.Text

theorem continues_eq_true_iff (byte : UInt8) :
    continues byte = true ↔ 0x80 ≤ byte.toNat ∧ byte.toNat < 0xC0 := by
  simp [continues, UInt8.le_iff_toNat_le, UInt8.lt_iff_toNat_lt]

theorem continues_continuation (bits : Nat) : continues (continuation bits) = true := by
  rw [continues_eq_true_iff, toNat_continuation]
  omega

theorem continues_ofNat_eq_false {code : Nat} (byte : code < 0x100)
    (leads : code < 0x80 ∨ 0xC0 ≤ code) : continues (UInt8.ofNat code) = false := by
  rw [← Bool.not_eq_true, continues_eq_true_iff, UInt8.toNat_ofNat']
  omega

/-- The bytes of one character: the first begins it, and the others go on with it. -/
inductive OneCharacter : List UInt8 → Prop
  | bytes {first : UInt8} {later : List UInt8} : continues first = false →
      (∀ byte ∈ later, continues byte = true) → OneCharacter (first :: later)

theorem Encoded.oneCharacter {code : Nat} {bytes : List UInt8} (encoded : Encoded code bytes) :
    OneCharacter bytes := by
  cases encoded with
  | one ascii => exact .bytes (continues_ofNat_eq_false (by omega) (by omega)) (by simp)
  | two _ below =>
      exact .bytes (continues_ofNat_eq_false (by omega) (by omega))
        (by simp [continues_continuation])
  | three _ below =>
      exact .bytes (continues_ofNat_eq_false (by omega) (by omega))
        (by simp [continues_continuation])
  | four _ below =>
      exact .bytes (continues_ofNat_eq_false (by omega) (by omega))
        (by simp [continues_continuation])

theorem oneCharacter_utf8EncodeChar (c : Char) : OneCharacter (String.utf8EncodeChar c) :=
  (utf8EncodeChar_encoded c).oneCharacter

theorem OneCharacter.countP {bytes : List UInt8} (character : OneCharacter bytes) :
    bytes.countP (fun byte => !continues byte) = 1 := by
  cases character with
  | @bytes first later begins goesOn =>
      have others : later.countP (fun byte => !continues byte) = 0 :=
        List.countP_eq_zero.mpr fun byte inLater => by simp [goesOn byte inLater]
      rw [List.countP_cons_of_pos (by simp [begins]), others]

theorem countP_encodeUtf8 (text : String) :
    (encodeUtf8 text).countP (fun byte => !continues byte) = text.toList.length := by
  rw [encodeUtf8_eq_flatMap]
  induction text.toList with
  | nil => rfl
  | cons c rest ih =>
      rw [List.flatMap_cons, List.countP_append, (oneCharacter_utf8EncodeChar c).countP, ih,
        List.length_cons, Nat.add_comm]

theorem OneCharacter.fallsInside {bytes : List UInt8} (character : OneCharacter bytes)
    {index : Nat} (inside : index + 1 < bytes.length) (rest : List UInt8) :
    fallsBetween (bytes ++ rest) (index + 1) = false := by
  cases character with
  | bytes _ goesOn =>
      rw [List.length_cons, Nat.add_lt_add_iff_right] at inside
      simp [fallsBetween, List.getElem?_append_left inside, inside,
        goesOn _ (List.getElem_mem inside)]

theorem fallsBetween_of_append {front rest : List UInt8} {index : Nat} (bytes : front ≠ [])
    (falls : fallsBetween (front ++ rest) (front.length + index) = true) :
    fallsBetween rest index = true := by
  have later : front.length + index ≠ 0 := by
    have some := List.length_pos_iff.mpr bytes
    omega
  have same : (front ++ rest)[front.length + index]? = rest[index]? := by
    rw [List.getElem?_append_right (by omega), Nat.add_sub_cancel_left]
  have atEnd : (front.length + index == front.length + rest.length) = (index == rest.length) := by
    simp
  rw [fallsBetween, beq_eq_false_iff_ne.mpr later, Bool.false_or, same, List.length_append,
    atEnd] at falls
  rw [fallsBetween, falls, Bool.or_true]

theorem fallsBetween_flatMap (first rest : List Char) :
    fallsBetween ((first ++ rest).flatMap String.utf8EncodeChar)
      (first.flatMap String.utf8EncodeChar).length = true := by
  rw [List.flatMap_append, fallsBetween, List.getElem?_append_right (Nat.le_refl _), Nat.sub_self]
  cases rest with
  | nil => simp
  | cons c rest =>
      have character := oneCharacter_utf8EncodeChar c
      rw [List.flatMap_cons]
      generalize String.utf8EncodeChar c = bytes at character
      cases character with
      | bytes begins => simp [begins]

theorem exists_of_fallsBetween {text : List Char} {index : Nat}
    (falls : fallsBetween (text.flatMap String.utf8EncodeChar) index = true) :
    ∃ first rest, text = first ++ rest ∧ (first.flatMap String.utf8EncodeChar).length = index := by
  induction text generalizing index with
  | nil =>
      have start : index = 0 := by simpa [fallsBetween] using falls
      exact ⟨[], [], rfl, start.symm⟩
  | cons c rest ih =>
      have character := oneCharacter_utf8EncodeChar c
      have bytes : String.utf8EncodeChar c ≠ [] := by
        intro none
        rw [none] at character
        cases character
      rw [List.flatMap_cons] at falls
      rcases Nat.lt_or_ge index (String.utf8EncodeChar c).length with inside | beyond
      · -- Of the bytes of the first character only its first may be cut before.
        cases index with
        | zero => exact ⟨[], c :: rest, rfl, rfl⟩
        | succ index =>
            rw [character.fallsInside inside] at falls
            contradiction
      · obtain ⟨past, rfl⟩ := Nat.exists_eq_add_of_le beyond
        obtain ⟨first, later, rfl, length⟩ := ih (fallsBetween_of_append bytes falls)
        exact ⟨c :: first, later, rfl, by rw [List.flatMap_cons, List.length_append, length]⟩

theorem fallsBetween_iff (text : String) (index : Nat) :
    fallsBetween (encodeUtf8 text) index = true ↔
      ∃ first rest, text = first ++ rest ∧ (encodeUtf8 first).length = index := by
  constructor
  · intro falls
    rw [encodeUtf8_eq_flatMap] at falls
    obtain ⟨first, rest, split, length⟩ := exists_of_fallsBetween falls
    refine ⟨String.ofList first, String.ofList rest, ?_, ?_⟩
    · rw [← String.ofList_append, ← split, String.ofList_toList]
    · rw [encodeUtf8_eq_flatMap, String.toList_ofList, length]
  · rintro ⟨first, rest, rfl, rfl⟩
    simp only [encodeUtf8_eq_flatMap, String.toList_append]
    exact fallsBetween_flatMap first.toList rest.toList

theorem before?_append (first rest : String) :
    before? (first ++ rest) (encodeUtf8 first).length = some first := by
  have falls := (fallsBetween_iff (first ++ rest) _).mpr ⟨first, rest, rfl, rfl⟩
  rw [before?, if_pos falls, encodeUtf8_append, List.take_left, decodeUtf8?_encodeUtf8]

theorem before?_eq_some_iff (text first : String) (index : Nat) :
    before? text index = some first ↔
      ∃ rest, text = first ++ rest ∧ (encodeUtf8 first).length = index := by
  constructor
  · intro cut
    have falls : fallsBetween (encodeUtf8 text) index = true := by
      by_contra inside
      rw [before?, if_neg inside] at cut
      contradiction
    obtain ⟨whole, rest, rfl, rfl⟩ := (fallsBetween_iff text index).mp falls
    obtain rfl := Option.some.inj ((before?_append whole rest).symm.trans cut)
    exact ⟨rest, rfl, rfl⟩
  · rintro ⟨rest, rfl, rfl⟩
    exact before?_append first rest

example : before? "aé" 2 = none := by decide +kernel

theorem getElem?_indexedFrom (index count : Nat) (text : List Char) :
    (indexedFrom index text)[count]? = text[count]?.map fun c =>
      (index + ((text.take count).flatMap String.utf8EncodeChar).length, c) := by
  induction text generalizing index count with
  | nil => rfl
  | cons c rest ih =>
      cases count with
      | zero => rfl
      | succ count =>
          simp only [indexedFrom, List.getElem?_cons_succ, ih, List.take_succ_cons,
            List.flatMap_cons, List.length_append, String.length_utf8EncodeChar, Nat.add_assoc]

theorem getElem?_indexed (text : String) (count : Nat) :
    (indexed text)[count]? = text.toList[count]?.map fun c =>
      ((encodeUtf8 (String.ofList (text.toList.take count))).length, c) := by
  rw [indexed, getElem?_indexedFrom, encodeUtf8_eq_flatMap, String.toList_ofList]
  simp only [Nat.zero_add]

end Playscript.Text
