import Playscript.Graph

/-!
Looking up records in a graph. There is one record at most at an address, and every jump leads to
an address of the graph or to one that is listed as dangling.
-/

namespace Playscript

theorem Ascending.unique {records : List Record} (ascending : Ascending records)
    {first second : Record} (firstMember : first ∈ records) (secondMember : second ∈ records)
    (same : first.address = second.address) : first = second := by
  induction records with
  | nil => contradiction
  | cons head rest ih =>
      obtain ⟨below, tail⟩ := List.pairwise_cons.1 ascending
      rcases List.mem_cons.1 firstMember with rfl | firstLater
      · rcases List.mem_cons.1 secondMember with rfl | secondLater
        · rfl
        · have smaller := below second secondLater
          rw [same] at smaller
          exact absurd smaller Int32.lt_irrefl
      · rcases List.mem_cons.1 secondMember with rfl | secondLater
        · have smaller := below first firstLater
          rw [same] at smaller
          exact absurd smaller Int32.lt_irrefl
        · exact ih tail firstLater secondLater

theorem insertRecord_perm {record : Record} {records : List Record}
    (fresh : ∀ other ∈ records, other.address ≠ record.address) :
    (insertRecord record records).Perm (record :: records) := by
  induction records with
  | nil => exact List.Perm.refl _
  | cons first rest ih =>
      obtain ⟨firstFresh, restFresh⟩ := List.forall_mem_cons.mp fresh
      rw [insertRecord]
      split
      · exact List.Perm.refl _
      · rw [if_neg firstFresh.symm]
        exact ((ih restFresh).cons first).trans (List.Perm.swap record first rest)

namespace Graph

theorem get?_eq_none_iff (graph : Graph) (address : Address) :
    graph.get? address = none ↔ ∀ record ∈ graph.records, record.address ≠ address := by
  simp [get?]

theorem get?_eq_some_iff (graph : Graph) (address : Address) (record : Record) :
    graph.get? address = some record ↔ record ∈ graph.records ∧ record.address = address := by
  constructor
  · intro found
    exact ⟨List.mem_of_find?_eq_some found, by simpa using List.find?_some found⟩
  · rintro ⟨member, here⟩
    cases found : graph.get? address with
    | none =>
        have nowhere := List.find?_eq_none.mp found record member
        simp [here] at nowhere
    | some other =>
        have otherHere : other.address = address := by simpa using List.find?_some found
        rw [graph.ascending.unique (List.mem_of_find?_eq_some found) member
          (otherHere.trans here.symm)]

theorem mem_of_get? {graph : Graph} {address : Address} {record : Record}
    (found : graph.get? address = some record) : record ∈ graph.records :=
  ((graph.get?_eq_some_iff address record).mp found).1

theorem address_of_get? {graph : Graph} {address : Address} {record : Record}
    (found : graph.get? address = some record) : record.address = address :=
  ((graph.get?_eq_some_iff address record).mp found).2

theorem get?_address {graph : Graph} {record : Record} (member : record ∈ graph.records) :
    graph.get? record.address = some record :=
  (graph.get?_eq_some_iff record.address record).mpr ⟨member, rfl⟩

theorem get?_eq_none_of_not_contains {graph : Graph} {address : Address}
    (missing : ¬graph.contains address) : graph.get? address = none := by
  simpa [contains] using missing

theorem contains_iff (graph : Graph) (address : Address) :
    graph.contains address = true ↔ ∃ record, graph.get? address = some record := by
  rw [contains, Option.isSome_iff_exists]

theorem mem_records_insert {graph : Graph} {record member : Record}
    (found : member ∈ (graph.insert record).records) : member = record ∨ member ∈ graph.records :=
  mem_insertRecord found

theorem mem_danglingJumps_iff (graph : Graph) (source target : Address) :
    (source, target) ∈ graph.danglingJumps ↔
      (∃ record, graph.get? source = some record ∧ record.jump = some target) ∧
        graph.get? target = none := by
  simp only [danglingJumps, List.mem_filterMap, Option.bind_eq_some_iff]
  constructor
  · rintro ⟨record, member, jumped, jump, listed⟩
    split at listed
    · contradiction
    · rename_i missing
      obtain ⟨rfl, rfl⟩ := Prod.mk.inj (Option.some.inj listed)
      exact ⟨⟨record, get?_address member, jump⟩, get?_eq_none_of_not_contains missing⟩
  · rintro ⟨⟨record, found, jump⟩, missing⟩
    refine ⟨record, mem_of_get? found, target, jump, ?_⟩
    simp [contains, missing, address_of_get? found]

/-- An address of the graph, or one that only a dangling jump leads to. -/
def Mentions (graph : Graph) (address : Address) : Prop :=
  graph.contains address = true ∨ ∃ source, (source, address) ∈ graph.danglingJumps

theorem mentions_jump {graph : Graph} {record : Record} {target : Address}
    (member : record ∈ graph.records) (jump : record.jump = some target) :
    graph.Mentions target := by
  cases found : graph.get? target with
  | some next =>
      left
      rw [contains_iff]
      exact ⟨next, found⟩
  | none =>
      right
      exact ⟨record.address, (graph.mem_danglingJumps_iff record.address target).mpr
        ⟨⟨record, get?_address member, jump⟩, found⟩⟩

theorem Mentions.contains {graph : Graph} {address : Address} (mentioned : graph.Mentions address)
    (sound : graph.danglingJumps = []) : graph.contains address = true := by
  rcases mentioned with present | ⟨source, listed⟩
  · exact present
  · rw [sound] at listed
    contradiction

end Graph
end Playscript
