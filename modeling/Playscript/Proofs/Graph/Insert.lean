import Mathlib.Data.List.Sort
import Playscript.Proofs.Graph.Lookup

/-!
What inserting does to a graph: the record is found at its address, every other address keeps what
it had, and the graph grows unless the address was taken. What can be found in a graph is all there
is to it.
-/

namespace Playscript

theorem mem_insertRecord_self (record : Record) (records : List Record) :
    record ∈ insertRecord record records := by
  induction records with
  | nil => exact List.mem_singleton_self record
  | cons first rest ih =>
      rw [insertRecord]
      split
      · exact List.mem_cons_self
      · split
        · exact List.mem_cons_self
        · exact List.mem_cons_of_mem first ih

theorem mem_insertRecord_of_ne {record other : Record} {records : List Record}
    (member : other ∈ records) (apart : other.address ≠ record.address) :
    other ∈ insertRecord record records := by
  induction records with
  | nil => contradiction
  | cons first rest ih =>
      rw [insertRecord]
      split
      · exact List.mem_cons_of_mem record member
      · split
        case isTrue same =>
          -- Only the first record makes way, and the other is not the first.
          rcases List.mem_cons.1 member with rfl | later
          · exact absurd same.symm apart
          · exact List.mem_cons_of_mem record later
        case isFalse =>
          rcases List.mem_cons.1 member with rfl | later
          · exact List.mem_cons_self
          · exact List.mem_cons_of_mem first (ih later)

theorem length_insertRecord_of_mem {record other : Record} {records : List Record}
    (ascending : Ascending records) (member : other ∈ records)
    (same : other.address = record.address) :
    (insertRecord record records).length = records.length := by
  induction records with
  | nil => contradiction
  | cons first rest ih =>
      obtain ⟨below, tail⟩ := List.pairwise_cons.1 ascending
      rcases List.mem_cons.1 member with rfl | later
      · simp [insertRecord, same, Int32.lt_irrefl]
      · have before : first.address < record.address := same ▸ below other later
        have notAfter : ¬record.address < first.address := Int32.lt_asymm before
        have differs : record.address ≠ first.address := (Int32.ne_of_lt before).symm
        simp [insertRecord, notAfter, differs, ih tail later]

theorem eq_of_ascending {α : Type} {list other : List α} {key : α → Address}
    (ascending : list.Pairwise fun one next => key one < key next)
    (otherAscending : other.Pairwise fun one next => key one < key next)
    (same : ∀ member, member ∈ list ↔ member ∈ other) : list = other := by
  have irreflexive : Std.Irrefl fun one next : α => key one < key next :=
    ⟨fun _ => Int32.lt_irrefl⟩
  have antisymmetric : Std.Antisymm fun one next : α => key one < key next :=
    ⟨fun _ _ before after => absurd after (Int32.lt_asymm before)⟩
  exact ascending.eq_of_mem_iff otherAscending same

namespace Graph

theorem mem_records_insert_iff (graph : Graph) (record member : Record) :
    member ∈ (graph.insert record).records ↔
      member = record ∨ (member ∈ graph.records ∧ member.address ≠ record.address) := by
  constructor
  · intro found
    by_cases same : member.address = record.address
    · left
      exact (graph.insert record).ascending.unique found (mem_insertRecord_self record _) same
    · exact (mem_records_insert found).imp_right fun earlier => ⟨earlier, same⟩
  · rintro (rfl | ⟨earlier, apart⟩)
    · exact mem_insertRecord_self member graph.records
    · exact mem_insertRecord_of_ne earlier apart

theorem get?_insert (graph : Graph) (record : Record) (address : Address) :
    (graph.insert record).get? address =
      if record.address = address then some record else graph.get? address := by
  apply Option.ext
  intro member
  simp only [get?_eq_some_iff, mem_records_insert_iff]
  split
  case isTrue here =>
    rw [Option.some.injEq]
    constructor
    · rintro ⟨rfl | ⟨_, apart⟩, there⟩
      · rfl
      · exact absurd (there.trans here.symm) apart
    · rintro rfl
      exact ⟨Or.inl rfl, here⟩
  case isFalse elsewhere =>
    rw [get?_eq_some_iff]
    constructor
    · rintro ⟨rfl | ⟨earlier, _⟩, there⟩
      · exact absurd there elsewhere
      · exact ⟨earlier, there⟩
    · rintro ⟨earlier, there⟩
      exact ⟨Or.inr ⟨earlier, fun same => elsewhere (same.symm.trans there)⟩, there⟩

theorem get?_insert_eq_none_iff (graph : Graph) (record : Record) (address : Address) :
    (graph.insert record).get? address = none ↔
      address ≠ record.address ∧ graph.get? address = none := by
  rw [get?_insert]
  split
  case isTrue here => simp [here]
  case isFalse elsewhere => simp [Ne.symm elsewhere]

theorem size_insert_of_fresh {graph : Graph} {record : Record}
    (fresh : graph.get? record.address = none) : (graph.insert record).size = graph.size + 1 :=
  (insertRecord_perm ((graph.get?_eq_none_iff record.address).mp fresh)).length_eq

theorem size_insert_of_taken {graph : Graph} {record other : Record}
    (taken : graph.get? record.address = some other) : (graph.insert record).size = graph.size :=
  length_insertRecord_of_mem graph.ascending (mem_of_get? taken) (address_of_get? taken)

theorem ext_get? {graph other : Graph} (same : ∀ address, graph.get? address = other.get? address) :
    graph = other := by
  have members : ∀ record, record ∈ graph.records ↔ record ∈ other.records := by
    intro record
    have found := same record.address
    constructor
    · intro member
      exact mem_of_get? (found ▸ get?_address member)
    · intro member
      exact mem_of_get? (found.symm ▸ get?_address member)
  have records := eq_of_ascending graph.ascending other.ascending members
  cases graph
  cases other
  simpa using records

end Graph
end Playscript
