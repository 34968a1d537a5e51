import Mathlib.Data.List.TakeDrop
import Playscript.Proofs.Text.ByteIndex
import Playscript.Units

/-!
Characters as the units of a reveal. A text is cut by the indices of its bytes and counted by its
characters, and both mean the same unit: the part before the cut has as many characters as were
asked for, or all that there are.
-/

namespace Playscript.Units

theorem toList_charLeading (text : String) (count : Nat) :
    (charLeading text count).toList = text.toList.take count :=
  String.toList_ofList

theorem charLeading_append (text : String) (count : Nat) :
    charLeading text count ++ String.ofList (text.toList.drop count) = text := by
  rw [charLeading, ← String.ofList_append, List.take_append_drop, String.ofList_toList]

theorem charCount_charLeading (text : String) (count : Nat) :
    charCount (charLeading text count) = min count (charCount text) := by
  rw [charCount, toList_charLeading, List.length_take, charCount]

theorem charLeading_eq_self_iff (text : String) (count : Nat) :
    charLeading text count = text ↔ charCount text ≤ count := by
  rw [← String.toList_inj, toList_charLeading, List.take_eq_self_iff, charCount]

theorem charLeading_charLeading (text : String) (count other : Nat) :
    charLeading (charLeading text count) other = charLeading text (min count other) := by
  rw [charLeading, toList_charLeading, List.take_take, Nat.min_comm, charLeading]

theorem charCount_eq_countP (text : String) :
    charCount text = (Text.encodeUtf8 text).countP fun byte => !Text.continues byte :=
  (Text.countP_encodeUtf8 text).symm

theorem getElem?_indexed_eq_some_iff (text : String) (count index : Nat) (c : Char) :
    (Text.indexed text)[count]? = some (index, c) ↔
      text.toList[count]? = some c ∧ (Text.encodeUtf8 (charLeading text count)).length = index := by
  rw [Text.getElem?_indexed, Option.map_eq_some_iff]
  constructor
  · rintro ⟨_, found, same⟩
    obtain ⟨rfl, rfl⟩ := Prod.mk.inj same
    exact ⟨found, rfl⟩
  · rintro ⟨found, rfl⟩
    exact ⟨c, found, rfl⟩

theorem charCut?_eq (text : String) (count : Nat) :
    charCut? text count = some (charLeading text count) := by
  rw [charCut?]
  split
  case h_1 index c found =>
    obtain ⟨_, length⟩ := (getElem?_indexed_eq_some_iff text count index c).mp found
    rw [Text.before?_eq_some_iff]
    exact ⟨_, (charLeading_append text count).symm, length⟩
  case h_2 missing =>
    rw [Text.getElem?_indexed, Option.map_eq_none_iff, List.getElem?_eq_none_iff] at missing
    rw [(charLeading_eq_self_iff text count).mpr missing]

/-- A text is counted by the bytes that begin a character, and a cut is made at such a byte and
always succeeds. -/
theorem charCut_asCounted (text : String) (count other : Nat) :
    let part := charLeading text count
    charCut? text count = some part ∧
    (∀ index c, (Text.indexed text)[count]? = some (index, c) →
      Text.fallsBetween (Text.encodeUtf8 text) index = true ∧
      Text.encodeUtf8 part = (Text.encodeUtf8 text).take index ∧
      text.toList = part.toList ++ c :: text.toList.drop (count + 1)) ∧
    (∃ rest, text = part ++ rest) ∧
    charCount text = ((Text.encodeUtf8 text).countP fun byte => !Text.continues byte) ∧
    charCount part = min count (charCount text) ∧
    (part = text ↔ charCount text ≤ count) ∧
    charLeading part other = charLeading text (min count other) := by
  intro part
  have whole : part ++ String.ofList (text.toList.drop count) = text := charLeading_append text count
  refine ⟨charCut?_eq text count, fun index c found => ?_, ⟨_, whole.symm⟩,
    charCount_eq_countP text, charCount_charLeading text count, charLeading_eq_self_iff text count,
    charLeading_charLeading text count other⟩
  obtain ⟨next, length⟩ := (getElem?_indexed_eq_some_iff text count index c).mp found
  have falls := (Text.fallsBetween_iff text index).mpr ⟨part, _, whole.symm, length⟩
  have bytes : Text.encodeUtf8 part = (Text.encodeUtf8 text).take index := by
    rw [← whole, Text.encodeUtf8_append, List.take_left' length]
  obtain ⟨within, rfl⟩ := List.getElem?_eq_some_iff.mp next
  refine ⟨falls, bytes, ?_⟩
  rw [toList_charLeading, ← List.drop_eq_getElem_cons within, List.take_append_drop]

theorem charCut_atFourLengths :
    let text := "aé【😀"
    (Text.indexed text)[3]? = some (6, '😀') ∧
    Text.fallsBetween (Text.encodeUtf8 text) 6 = true ∧
    charCut? text 3 = some "aé【" ∧ charCount "aé【" = 3 ∧
    charCut? text 4 = some text ∧ charLeading "aé【" 2 = "aé" := by
  intro text
  have four : charCount text = 4 := by decide
  have found : (Text.indexed text)[3]? = some (6, '😀') := by decide
  have three : charLeading text 3 = "aé【" := by decide +kernel
  have two : charLeading text 2 = "aé" := by decide +kernel
  obtain ⟨cut, between, _, _, count, _, again⟩ := charCut_asCounted text 3 2
  obtain ⟨full, _, _, _, _, whole, _⟩ := charCut_asCounted text 4 2
  rw [three] at cut count again
  rw [four] at count
  rw [whole.mpr (Nat.le_of_eq four)] at full
  exact ⟨found, (between 6 '😀' found).1, cut, count, full, again.trans two⟩

end Playscript.Units
