import Mathlib.Data.List.Pairwise
import Playscript.Config
import Playscript.Proofs.Except

/-!
What a sound configuration promises: delimiters that can be told apart, a tag of its own for each
kind of line, and room for the columns of its layout.
-/

namespace Playscript

structure TagNames.Distinct (names : TagNames) : Prop where
  written (kind : LineKind) : names.normalTag kind ≠ ""
  injective {kind other : LineKind} : names.normalTag kind = names.normalTag other → kind = other

theorem LineKind.mem_all (kind : LineKind) : kind ∈ all := by
  cases kind <;> decide

namespace Config

theorem require_eq_ok_iff (condition : Prop) [Decidable condition] (fault : Fault) :
    require condition fault = .ok () ↔ condition := by
  by_cases holds : condition
  · simp [require, holds]
  · simp [require, holds]

theorem checkTags_eq_ok_iff (names : TagNames) (earlier later : List LineKind) :
    checkTags names earlier later = .ok () ↔
      (∀ kind ∈ later, names.normalTag kind ≠ "") ∧
      later.Pairwise (fun kind other => names.normalTag kind ≠ names.normalTag other) ∧
      ∀ kind ∈ earlier, ∀ other ∈ later, names.normalTag kind ≠ names.normalTag other := by
  induction later generalizing earlier with
  | nil => simp [checkTags]
  | cons kind rest ih =>
      simp only [checkTags, bind_unit_eq_ok_iff, require_eq_ok_iff]
      cases clash : earlier.find? fun other => names.normalTag other == names.normalTag kind with
      | some other =>
          have same : names.normalTag other = names.normalTag kind := by
            simpa using List.find?_some clash
          refine iff_of_false (by simp) ?_
          rintro ⟨_, _, apart⟩
          exact apart other (List.mem_of_find?_eq_some clash) kind List.mem_cons_self same
      | none =>
          have fresh : ∀ other ∈ earlier, names.normalTag other ≠ names.normalTag kind := by
            simpa using clash
          simp only [ih, List.forall_mem_cons, List.pairwise_cons, List.forall_mem_append]
          constructor
          · rintro ⟨written, writtenRest, distinct, apart, first, _⟩
            exact ⟨⟨written, writtenRest⟩, ⟨first, distinct⟩,
              fun other member => ⟨fresh other member, apart other member⟩⟩
          · rintro ⟨⟨written, writtenRest⟩, ⟨first, distinct⟩, apart⟩
            exact ⟨written, writtenRest, distinct, fun other member => (apart other member).2, first,
              by simp⟩

theorem checkTags_all_iff (names : TagNames) :
    checkTags names [] LineKind.all = .ok () ↔ names.Distinct := by
  rw [checkTags_eq_ok_iff]
  constructor
  · rintro ⟨written, distinct, _⟩
    refine ⟨fun kind => written kind kind.mem_all, ?_⟩
    have bothWays : Std.Symm fun kind other : LineKind =>
        names.normalTag kind ≠ names.normalTag other := ⟨fun _ _ apart => apart.symm⟩
    intro kind other same
    apply Decidable.byContradiction
    intro different
    exact distinct.forall kind.mem_all other.mem_all different same
  · intro distinct
    refine ⟨fun kind _ => distinct.written kind, ?_, by simp⟩
    have nodup : LineKind.all.Nodup := by decide
    exact nodup.imp fun different same => different (distinct.injective same)

theorem validate_eq_ok_iff (config : Config) :
    config.validate = .ok () ↔
      config.fieldDelimiter ≠ config.lineDelimiter ∧ config.fieldDelimiter ≠ '\r' ∧
      config.tags.Distinct ∧ config.columns.highestRequired < config.minColumns ∧
      0 < config.revealInterval := by
  simp only [validate, bind_unit_eq_ok_iff, require_eq_ok_iff, checkTags_all_iff,
    Nat.succ_le_iff]

theorem countable_of_validate {config : Config} (valid : config.validate = .ok ())
    (counts : config.minColumns < UInt64.size) : config.columns.Countable := by
  obtain ⟨_, _, _, room, _⟩ := config.validate_eq_ok_iff.mp valid
  exact Nat.lt_of_le_of_lt room counts

end Config

theorem Columns.Countable.needed {columns : Columns} (countable : columns.Countable) :
    (UInt64.ofNat columns.highestRequired + 1).toNat = columns.highestRequired + 1 := by
  have highest : columns.highestRequired < UInt64.size := Nat.lt_of_succ_lt countable
  rw [UInt64.toNat_add, UInt64.toNat_ofNat_of_lt' highest]
  exact Nat.mod_eq_of_lt countable

namespace TagNames

theorem Distinct.kindOf? {names : TagNames} (distinct : names.Distinct) (kind : LineKind) :
    names.kindOf? (names.normalTag kind) = some kind := by
  cases found : names.kindOf? (names.normalTag kind) with
  | none =>
      have nowhere := List.find?_eq_none.mp found kind (List.mem_reverse.mpr kind.mem_all)
      simp at nowhere
  | some other =>
      have same : names.normalTag other = names.normalTag kind := by
        simpa using List.find?_some found
      rw [distinct.injective same]

theorem exists_kindOf?_iff (names : TagNames) (tag : String) :
    (∃ kind, names.kindOf? tag = some kind) ↔ ∃ kind, tag = names.normalTag kind := by
  rw [← Option.isSome_iff_exists, kindOf?, List.find?_isSome]
  constructor
  · rintro ⟨kind, _, same⟩
    exact ⟨kind, (beq_iff_eq.mp same).symm⟩
  · rintro ⟨kind, same⟩
    exact ⟨kind, List.mem_reverse.mpr kind.mem_all, beq_iff_eq.mpr same.symm⟩

/-- Of kinds that share a tag the last is meant, and no kind is behind that of the end. -/
theorem kindOf?_eq_terminate_iff (names : TagNames) (tag : String) :
    names.kindOf? tag = some .terminate ↔ tag = names.normalTag .terminate := by
  have endFirst : ∃ others, LineKind.all.reverse = LineKind.terminate :: others := ⟨_, rfl⟩
  obtain ⟨others, listed⟩ := endFirst
  rw [kindOf?, listed]
  constructor
  · intro found
    have same := List.find?_some found
    rw [beq_iff_eq] at same
    exact same.symm
  · rintro rfl
    exact List.find?_cons_of_pos (beq_self_eq_true _)

end TagNames
end Playscript
