import Playscript.Proofs.Graph.Insertions

/-!
The jumps of a graph that lead to no record of it. An insertion cures those that lead to its
address, drops the one that started there, and adds at most its own; so after every insertion the
list is known from the list before.
-/

namespace Playscript
namespace Graph

/-- The dangling jumps that neither start at the address of an insertion nor lead to it. -/
def stillDangling (graph : Graph) (record : Record) : List (Address × Address) :=
  graph.danglingJumps.filter fun jump => jump.1 ≠ record.address && jump.2 ≠ record.address

/-- The jump of the record itself, unless it leads to the record or to one that is present. -/
def newlyDangling (graph : Graph) (record : Record) : List (Address × Address) :=
  (record.jump.toList.filter fun target =>
    target ≠ record.address && !graph.contains target).map fun target => (record.address, target)

def danglingAfter (graph : Graph) (record : Record) : List (Address × Address) :=
  ((graph.stillDangling record).filter fun jump => jump.1 < record.address) ++
    graph.newlyDangling record ++
    ((graph.stillDangling record).filter fun jump => record.address < jump.1)

theorem mem_stillDangling_iff (graph : Graph) (record : Record) (jump : Address × Address) :
    jump ∈ graph.stillDangling record ↔
      jump ∈ graph.danglingJumps ∧ jump.1 ≠ record.address ∧ jump.2 ≠ record.address := by
  simp [stillDangling]

theorem mem_newlyDangling_iff (graph : Graph) (record : Record) (source target : Address) :
    (source, target) ∈ graph.newlyDangling record ↔
      record.address = source ∧ record.jump = some target ∧ target ≠ record.address ∧
        graph.get? target = none := by
  simp only [newlyDangling, contains, List.mem_map, List.mem_filter, Option.mem_toList,
    Bool.and_eq_true, decide_eq_true_eq, Bool.not_eq_true', Option.isSome_eq_false_iff,
    Option.isNone_iff_eq_none]
  constructor
  · rintro ⟨_, ⟨jump, apart, missing⟩, same⟩
    obtain ⟨here, rfl⟩ := Prod.mk.inj same
    exact ⟨here, jump, apart, missing⟩
  · rintro ⟨rfl, jump, apart, missing⟩
    exact ⟨target, ⟨jump, apart, missing⟩, rfl⟩

theorem newlyDangling_ascending (graph : Graph) (record : Record) :
    (graph.newlyDangling record).Pairwise fun earlier later => earlier.1 < later.1 := by
  refine List.pairwise_map.mpr (List.Pairwise.filter _ ?_)
  cases record.jump with
  | none => exact List.Pairwise.nil
  | some target => exact List.pairwise_singleton _ target

theorem danglingJumps_ascending (graph : Graph) :
    graph.danglingJumps.Pairwise fun earlier later => earlier.1 < later.1 := by
  have source {record : Record} {jump : Address × Address}
      (listed : (record.jump.bind fun target =>
        if graph.contains target then none else some (record.address, target)) = some jump) :
      jump.1 = record.address := by
    obtain ⟨target, _, made⟩ := Option.bind_eq_some_iff.mp listed
    split at made
    · contradiction
    · exact congrArg Prod.fst (Option.some.inj made).symm
  refine graph.ascending.filterMap _ fun earlier later before jump listed other otherListed => ?_
  rw [source listed, source otherListed]
  exact before

theorem mem_danglingJumps_insert_iff (graph : Graph) (record : Record)
    (source target : Address) :
    (source, target) ∈ (graph.insert record).danglingJumps ↔
      (source, target) ∈ graph.stillDangling record ∨
        (source, target) ∈ graph.newlyDangling record := by
  rw [mem_stillDangling_iff, mem_newlyDangling_iff, mem_danglingJumps_iff, mem_danglingJumps_iff,
    get?_insert_eq_none_iff, get?_insert]
  constructor
  · rintro ⟨⟨found, standing, jump⟩, apart, missing⟩
    split at standing
    case isTrue own =>
      obtain rfl := Option.some.inj standing
      exact .inr ⟨own, jump, apart, missing⟩
    case isFalse elsewhere =>
      exact .inl ⟨⟨⟨found, standing, jump⟩, missing⟩, Ne.symm elsewhere, apart⟩
  · rintro (⟨⟨⟨found, standing, jump⟩, missing⟩, elsewhere, apart⟩ | ⟨own, jump, apart, missing⟩)
    · rw [if_neg (Ne.symm elsewhere)]
      exact ⟨⟨found, standing, jump⟩, apart, missing⟩
    · rw [if_pos own]
      exact ⟨⟨record, rfl, jump⟩, apart, missing⟩

theorem mem_danglingAfter_iff (graph : Graph) (record : Record) (jump : Address × Address) :
    jump ∈ graph.danglingAfter record ↔
      jump ∈ graph.stillDangling record ∨ jump ∈ graph.newlyDangling record := by
  simp only [danglingAfter, List.mem_append, List.mem_filter, decide_eq_true_eq]
  constructor
  · rintro ((⟨left, _⟩ | brought) | ⟨left, _⟩)
    · exact .inl left
    · exact .inr brought
    · exact .inl left
  · rintro (left | brought)
    · have elsewhere := ((graph.mem_stillDangling_iff record jump).mp left).2.1
      by_cases before : jump.1 < record.address
      · exact .inl (.inl ⟨left, before⟩)
      · have after := Int32.lt_of_le_of_ne (Int32.not_lt.mp before) elsewhere.symm
        exact .inr ⟨left, after⟩
    · exact .inl (.inr brought)

theorem danglingAfter_ascending (graph : Graph) (record : Record) :
    (graph.danglingAfter record).Pairwise fun earlier later => earlier.1 < later.1 := by
  have still : (graph.stillDangling record).Pairwise fun earlier later => earlier.1 < later.1 :=
    graph.danglingJumps_ascending.filter _
  have own {jump : Address × Address} (brought : jump ∈ graph.newlyDangling record) :
      record.address = jump.1 :=
    ((graph.mem_newlyDangling_iff record jump.1 jump.2).mp brought).1
  simp only [danglingAfter, List.append_assoc, List.pairwise_append, List.mem_append,
    List.mem_filter, decide_eq_true_eq]
  refine ⟨still.filter _, ⟨graph.newlyDangling_ascending record, still.filter _, ?_⟩, ?_⟩
  · intro jump brought other ⟨_, after⟩
    exact own brought ▸ after
  · rintro other ⟨_, before⟩ jump (brought | ⟨_, after⟩)
    · exact own brought ▸ before
    · exact Int32.lt_trans before after

theorem danglingJumps_insert (graph : Graph) (record : Record) :
    (graph.insert record).danglingJumps = graph.danglingAfter record := by
  -- Both sides ascend by their sources, so they are equal if they list the same jumps.
  refine eq_of_ascending (graph.insert record).danglingJumps_ascending
    (graph.danglingAfter_ascending record) fun jump => ?_
  rw [graph.mem_danglingAfter_iff, graph.mem_danglingJumps_insert_iff record jump.1 jump.2]

end Graph

/-- A graph keeps the last record at each address and nothing else, and an insertion changes only
the dangling jumps it touches. -/
theorem insertions_keepLast (records : List Record) :
    let graph := Graph.ofList records
    (∀ address record, graph.get? address = some record ↔ LastAt records address record) ∧
    (∀ record, (graph.replace record).2 = Graph.ofList (records ++ [record]) ∧
      (∀ former, (graph.replace record).1 = some former ↔ LastAt records record.address former) ∧
      ∀ member, member ∈ (graph.replace record).2.records ↔
        member = record ∨ member ∈ graph.records ∧ (graph.replace record).1 ≠ some member) ∧
    graph.addresses.Pairwise (· < ·) ∧
    (∀ address, address ∈ graph.addresses ↔ ∃ record ∈ records, record.address = address) ∧
    (∀ address, graph.first? = some address ↔
      address ∈ graph.addresses ∧ ∀ other ∈ graph.addresses, address ≤ other) ∧
    (∀ others, graph = Graph.ofList others ↔
      ∀ address record, LastAt records address record ↔ LastAt others address record) ∧
    (graph.danglingJumps.Pairwise fun earlier later => earlier.1 < later.1) ∧
    (∀ source target, (source, target) ∈ graph.danglingJumps ↔
      (∃ record, graph.get? source = some record ∧ record.jump = some target) ∧
        graph.get? target = none) ∧
    ∀ record, (graph.insert record).danglingJumps = graph.danglingAfter record := by
  intro graph
  have found := Graph.get?_ofList_eq_some_iff records
  refine ⟨found, fun record => ⟨(Graph.ofList_concat records record).symm,
    found record.address, graph.mem_records_replace_iff record⟩, graph.addresses_ascending, ?_,
    graph.first?_eq_some_iff, Graph.ofList_eq_ofList_iff records, graph.danglingJumps_ascending,
    graph.mem_danglingJumps_iff, graph.danglingJumps_insert⟩
  intro address
  rw [graph.mem_addresses_iff, ← exists_lastAt_iff]
  exact exists_congr (found address)

example :
    let line (address : Address) (jump : Option Address) : Record := ⟨address, "", "", "", jump, ""⟩
    let graph := Graph.ofList [line 8 (some 4), line 2 (some 4), line 5 (some 9)]
    graph.danglingJumps = [(2, 4), (5, 9), (8, 4)] ∧
    (graph.insert (line 4 (some 6))).danglingJumps = [(4, 6), (5, 9)] ∧
    (graph.insert (line 5 (some 5))).danglingJumps = [(2, 4), (8, 4)] := by decide

end Playscript
