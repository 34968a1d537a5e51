import Playscript.Text.FileName
import Playscript.Proofs.Text.Stretch

/-!
The stem of a file's name, by what it is and not by how it is found: what stands before the last
dot, or the whole name where that is nothing or there is no dot.
-/

namespace Playscript.Text

/-- A name and its stem. -/
inductive IsStem : String → String → Prop
  | beforeDot {stem extension : String} : stem ≠ "" → '.' ∉ extension.toList →
      IsStem (stem ++ "." ++ extension) stem
  | onlyExtension {extension : String} : '.' ∉ extension.toList →
      IsStem ("." ++ extension) ("." ++ extension)
  | undotted {name : String} : '.' ∉ name.toList → IsStem name name

theorem pieces_of_undotted {text : List Char} (undotted : '.' ∉ text) :
    pieces (· == '.') text = [text] :=
  pieces_of_free fun c listed => by
    simp only [beq_eq_false_iff_ne, ne_eq]
    rintro rfl
    exact undotted listed

theorem pieces_append_lastDot (before : List Char) {after : List Char} (undotted : '.' ∉ after) :
    pieces (· == '.') (before ++ '.' :: after) = pieces (· == '.') before ++ [after] := by
  have last := pieces_of_undotted undotted
  simp only [pieces_eq_splitOnP] at last ⊢
  rw [List.splitOnP_append_cons before after (by simp), last]

theorem fileStem_of_undotted {name : String} (undotted : '.' ∉ name.toList) :
    fileStem name = name := by
  simp [fileStem, pieces_of_undotted undotted]

theorem fileStem_of_lastDot (before : String) {after : String} (undotted : '.' ∉ after.toList) :
    fileStem (before ++ "." ++ after) =
      if before = "" then before ++ "." ++ after else before := by
  have split : pieces (· == '.') (before ++ "." ++ after).toList =
      pieces (· == '.') before.toList ++ [after.toList] := by
    simpa using pieces_append_lastDot before.toList undotted
  have joined : ((pieces (· == '.') before.toList).intersperse ['.']).flatten = before.toList :=
    intercalate_pieces '.' before.toList
  simp only [fileStem, split, List.dropLast_concat, joined]
  by_cases empty : before = ""
  · simp [empty]
  · simp [empty]

theorem exists_lastDot {name : String} (dotted : '.' ∈ name.toList) :
    ∃ before after, name = before ++ "." ++ after ∧ '.' ∉ after.toList := by
  obtain ⟨after, before, same, undotted⟩ :=
    List.eq_append_cons_of_mem (List.mem_reverse.mpr dotted)
  refine ⟨String.ofList before.reverse, String.ofList after.reverse, ?_, by simpa using undotted⟩
  rw [← String.toList_inj, ← List.reverse_inj]
  simp [same]

theorem isStem_iff {name stem : String} : IsStem name stem ↔ fileStem name = stem := by
  constructor
  · intro made
    cases made with
    | beforeDot nonempty undotted => rw [fileStem_of_lastDot _ undotted, if_neg nonempty]
    | @onlyExtension extension undotted => simpa using fileStem_of_lastDot "" undotted
    | undotted undotted => exact fileStem_of_undotted undotted
  · rintro rfl
    by_cases dotted : '.' ∈ name.toList
    · obtain ⟨before, after, rfl, undotted⟩ := exists_lastDot dotted
      rw [fileStem_of_lastDot before undotted]
      by_cases empty : before = ""
      · subst empty
        simpa using IsStem.onlyExtension undotted
      · rw [if_neg empty]
        exact .beforeDot empty undotted
    · rw [fileStem_of_undotted dotted]
      exact .undotted dotted

end Playscript.Text
