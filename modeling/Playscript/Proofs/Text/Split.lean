import Mathlib.Data.List.Induction
import Playscript.Proofs.Text.Strip
import Playscript.Text.Split

/-!
Splitting undoes joining, and does not mind whether a text is trimmed before it is split or its
pieces afterwards.
-/

namespace Playscript.Text

theorem pieces_eq_splitOnP (isBreak : Char → Bool) (text : List Char) :
    pieces isBreak text = text.splitOnP isBreak := by
  induction text with
  | nil => simp [pieces]
  | cons c rest ih =>
      rw [pieces, List.splitOnP_cons_eq_if_modifyHead, ih]
      by_cases breaks : isBreak c = true
      · simp [breaks]
      · cases first : rest.splitOnP isBreak with
        | nil => exact absurd first (List.splitOnP_ne_nil isBreak rest)
        | cons piece more => simp [breaks]

theorem pieces_ne_nil (isBreak : Char → Bool) (text : List Char) : pieces isBreak text ≠ [] := by
  rw [pieces_eq_splitOnP]
  exact List.splitOnP_ne_nil isBreak text

theorem length_pieces (isBreak : Char → Bool) (text : List Char) :
    (pieces isBreak text).length = text.countP isBreak + 1 := by
  induction text with
  | nil => rfl
  | cons c rest ih =>
      rw [pieces]
      by_cases breaks : isBreak c = true
      · simp [breaks, ih]
      · cases first : pieces isBreak rest with
        | nil => exact absurd first (pieces_ne_nil isBreak rest)
        | cons piece more =>
            rw [first] at ih
            simpa [breaks] using ih

theorem pieces_intercalate {isBreak : Char → Bool} {separator : Char} {rows : List (List Char)}
    (breaks : isBreak separator = true) (free : ∀ row ∈ rows, ∀ c ∈ row, isBreak c = false)
    (nonempty : rows ≠ []) : pieces isBreak ([separator].intercalate rows) = rows := by
  simp only [pieces_eq_splitOnP]
  induction rows with
  | nil => contradiction
  | cons row rest ih =>
      obtain ⟨rowFree, restFree⟩ := List.forall_mem_cons.mp free
      cases rest with
      | nil =>
          rw [List.intercalate_singleton]
          exact List.splitOnP_eq_singleton rowFree
      | cons next more =>
          rw [List.intercalate_cons_cons, List.append_assoc, List.singleton_append,
            List.splitOnP_append_cons_of_forall_mem rowFree separator breaks,
            ih restFree (List.cons_ne_nil next more)]

theorem intercalate_pieces (separator : Char) (text : List Char) :
    [separator].intercalate (pieces (· == separator) text) = text := by
  rw [pieces_eq_splitOnP]
  exact List.intercalate_splitOn separator

theorem kept_of_mem_pieces {isBreak : Char → Bool} {text piece : List Char}
    (listed : piece ∈ pieces isBreak text) : ∀ c ∈ piece, isBreak c = false := by
  induction text generalizing piece with
  | nil => simp_all [pieces]
  | cons d rest ih =>
      by_cases breaks : isBreak d = true
      · simp only [pieces, breaks, if_true, List.mem_cons] at listed
        rcases listed with rfl | later
        · simp
        · exact ih later
      · cases split : pieces isBreak rest with
        | nil => exact absurd split (pieces_ne_nil isBreak rest)
        | cons first more =>
            rw [split] at ih
            simp only [pieces, breaks, split, Bool.false_eq_true, if_false, List.mem_cons]
              at listed
            rcases listed with rfl | later
            · rw [List.forall_mem_cons]
              exact ⟨by simpa using breaks, ih List.mem_cons_self⟩
            · exact ih (List.mem_cons_of_mem first later)

theorem pieces_cons_of_kept {isBreak : Char → Bool} {c : Char} (kept : isBreak c = false)
    (text : List Char) : ∃ first after, pieces isBreak text = first :: after ∧
      pieces isBreak (c :: text) = (c :: first) :: after := by
  cases split : pieces isBreak text with
  | nil => exact absurd split (pieces_ne_nil isBreak text)
  | cons first after => exact ⟨first, after, rfl, by simp [pieces, kept, split]⟩

theorem pieces_concat_of_kept {isBreak : Char → Bool} {c : Char} (kept : isBreak c = false)
    (text : List Char) : ∃ before last, pieces isBreak text = before ++ [last] ∧
      pieces isBreak (text ++ [c]) = before ++ [last ++ [c]] := by
  induction text with
  | nil => exact ⟨[], [], rfl, by simp [pieces, kept]⟩
  | cons d rest ih =>
      obtain ⟨before, last, split, extended⟩ := ih
      by_cases breaks : isBreak d = true
      · exact ⟨[] :: before, last, by simp [pieces, breaks, split],
          by simp [pieces, breaks, extended]⟩
      · cases before with
        | nil =>
            exact ⟨[], d :: last, by simp [pieces, breaks, split],
              by simp [pieces, breaks, extended]⟩
        | cons first more =>
            exact ⟨(d :: first) :: more, last, by simp [pieces, breaks, split],
              by simp [pieces, breaks, extended]⟩

theorem strip_cons_of_removed {removed : Char → Bool} {c : Char} (gone : removed c = true)
    (text : List Char) : strip removed (c :: text) = strip removed text := by
  simp [strip, gone]

theorem dropEnd_concat_of_removed {removed : Char → Bool} {c : Char} (gone : removed c = true)
    (text : List Char) : dropEnd removed (text ++ [c]) = dropEnd removed text := by
  simp [dropEnd, gone]

theorem dropEnd_concat_of_kept {removed : Char → Bool} {c : Char} (kept : removed c = false)
    (text : List Char) : dropEnd removed (text ++ [c]) = text ++ [c] := by
  simp [dropEnd, kept]

theorem strip_concat_of_removed {removed : Char → Bool} {c : Char} (gone : removed c = true)
    (text : List Char) : strip removed (text ++ [c]) = strip removed text := by
  rw [strip, strip, List.dropWhile_append]
  split
  · rename_i empty
    have single : [c].dropWhile removed = [] := by simp [gone]
    rw [List.isEmpty_iff.mp empty, single]
  · exact dropEnd_concat_of_removed gone _

section Trimming

variable {isBreak removed blank : Char → Bool}
  (blanks : ∀ c, removed c = true → blank c = true)
  (spared : ∀ c, removed c = true → isBreak c = false)

include blanks spared

theorem strip_pieces_dropWhile (text : List Char) :
    (pieces isBreak (text.dropWhile removed)).map (strip blank) =
      (pieces isBreak text).map (strip blank) := by
  induction text with
  | nil => rfl
  | cons c rest ih =>
      by_cases gone : removed c = true
      · obtain ⟨first, after, split, extended⟩ := pieces_cons_of_kept (spared c gone) rest
        rw [List.dropWhile_cons_of_pos gone, ih, split, extended]
        simp [strip_cons_of_removed (blanks c gone)]
      · rw [List.dropWhile_cons_of_neg gone]

theorem strip_pieces_dropEnd (text : List Char) :
    (pieces isBreak (dropEnd removed text)).map (strip blank) =
      (pieces isBreak text).map (strip blank) := by
  induction text using List.reverseRec with
  | nil => rfl
  | append_singleton text c ih =>
      by_cases gone : removed c = true
      · obtain ⟨before, last, split, extended⟩ := pieces_concat_of_kept (spared c gone) text
        rw [dropEnd_concat_of_removed gone, ih, split, extended]
        simp [strip_concat_of_removed (blanks c gone)]
      · rw [dropEnd_concat_of_kept (by simpa using gone)]

/-- Pieces that are trimmed anyway may be cut from a trimmed text, as long as trimming spares the
breaks. -/
theorem strip_pieces_strip (text : List Char) :
    (pieces isBreak (strip removed text)).map (strip blank) =
      (pieces isBreak text).map (strip blank) := by
  rw [strip, strip_pieces_dropEnd blanks spared, strip_pieces_dropWhile blanks spared]

end Trimming
end Playscript.Text
