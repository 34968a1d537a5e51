import Mathlib.Data.List.Induction
import Playscript.Proofs.Graph.Insert

/-!
A graph after any insertions. At each address stands the last record that was inserted there, so two
sequences of insertions lead to one graph exactly if they agree on the last record at each address.
-/

namespace Playscript

/-- The last record of a sequence that has the address. -/
def LastAt (records : List Record) (address : Address) (record : Record) : Prop :=
  ∃ earlier later, records = earlier ++ record :: later ∧ record.address = address ∧
    ∀ other ∈ later, other.address ≠ address

theorem not_lastAt_nil (address : Address) (record : Record) : ¬LastAt [] address record := by
  rintro ⟨earlier, later, split, _⟩
  simp at split

theorem lastAt_concat_self_iff (records : List Record) (last record : Record) :
    LastAt (records ++ [last]) last.address record ↔ record = last := by
  constructor
  · rintro ⟨earlier, later, split, _, apart⟩
    rcases List.eq_nil_or_concat' later with rfl | ⟨between, final, rfl⟩
    · exact (List.append_singleton_inj.mp split).2.symm
    · -- The last record of all has the address, and so it is not one of the others.
      rw [← List.cons_append, ← List.append_assoc, List.append_singleton_inj] at split
      exact absurd (split.2 ▸ rfl) (apart final (by simp))
  · rintro rfl
    exact ⟨records, [], rfl, rfl, by simp⟩

theorem lastAt_concat_of_ne {last : Record} {address : Address} (apart : last.address ≠ address)
    (records : List Record) (record : Record) :
    LastAt (records ++ [last]) address record ↔ LastAt records address record := by
  constructor
  · rintro ⟨earlier, later, split, here, others⟩
    rcases List.eq_nil_or_concat' later with rfl | ⟨between, final, rfl⟩
    · obtain ⟨_, rfl⟩ := List.append_singleton_inj.mp split
      exact absurd here apart
    · rw [← List.cons_append, ← List.append_assoc, List.append_singleton_inj] at split
      exact ⟨earlier, between, split.1, here, fun other inBetween =>
        others other (List.mem_append_left _ inBetween)⟩
  · rintro ⟨earlier, later, rfl, here, others⟩
    refine ⟨earlier, later ++ [last], by simp, here, fun other member => ?_⟩
    rcases List.mem_append.mp member with inLater | isLast
    · exact others other inLater
    · exact List.mem_singleton.mp isLast ▸ apart

theorem exists_lastAt_iff (records : List Record) (address : Address) :
    (∃ record, LastAt records address record) ↔ ∃ record ∈ records, record.address = address := by
  constructor
  · rintro ⟨record, earlier, later, rfl, here, _⟩
    exact ⟨record, by simp, here⟩
  · rintro ⟨record, member, here⟩
    induction records using List.reverseRecOn with
    | nil => contradiction
    | append_singleton records last ih =>
        by_cases latest : last.address = address
        · subst latest
          exact ⟨last, (lastAt_concat_self_iff records last last).mpr rfl⟩
        · simp only [lastAt_concat_of_ne latest]
          rcases List.mem_append.mp member with before | isLast
          · exact ih before
          · exact absurd (List.mem_singleton.mp isLast ▸ here) latest

namespace Graph

theorem ofList_concat (records : List Record) (last : Record) :
    ofList (records ++ [last]) = (ofList records).insert last := by
  rw [ofList, List.foldl_concat, ofList]

theorem get?_ofList_eq_some_iff (records : List Record) (address : Address) (record : Record) :
    (ofList records).get? address = some record ↔ LastAt records address record := by
  induction records using List.reverseRecOn with
  | nil => simp [ofList, empty, get?, not_lastAt_nil]
  | append_singleton records last ih =>
      rw [ofList_concat, get?_insert]
      split
      case isTrue here =>
        rw [← here, lastAt_concat_self_iff, Option.some.injEq, eq_comm]
      case isFalse apart =>
        rw [ih, lastAt_concat_of_ne apart]

theorem ofList_eq_ofList_iff (records others : List Record) :
    ofList records = ofList others ↔
      ∀ address record, LastAt records address record ↔ LastAt others address record := by
  simp only [← get?_ofList_eq_some_iff]
  constructor
  · intro same address record
    rw [same]
  · intro same
    exact ext_get? fun address => Option.ext (same address)

theorem mem_records_replace_iff (graph : Graph) (record member : Record) :
    member ∈ (graph.replace record).2.records ↔
      member = record ∨ member ∈ graph.records ∧ (graph.replace record).1 ≠ some member := by
  simp only [replace, mem_records_insert_iff, Ne, get?_eq_some_iff]
  refine or_congr_right (and_congr_right fun present => ?_)
  simp [present]

theorem addresses_ascending (graph : Graph) : graph.addresses.Pairwise (· < ·) :=
  List.pairwise_map.mpr graph.ascending

theorem mem_addresses_iff (graph : Graph) (address : Address) :
    address ∈ graph.addresses ↔ ∃ record, graph.get? address = some record := by
  simp only [addresses, List.mem_map, get?_eq_some_iff]

theorem first?_eq_some_iff (graph : Graph) (address : Address) :
    graph.first? = some address ↔
      address ∈ graph.addresses ∧ ∀ other ∈ graph.addresses, address ≤ other := by
  have ascending := graph.addresses_ascending
  rw [first?]
  cases listed : graph.addresses with
  | nil => simp
  | cons least rest =>
      rw [listed] at ascending
      obtain ⟨below, _⟩ := List.pairwise_cons.mp ascending
      rw [List.head?_cons, Option.some.injEq]
      constructor
      · rintro rfl
        refine ⟨List.mem_cons_self, fun other member => ?_⟩
        rcases List.mem_cons.mp member with rfl | later
        · exact Int32.le_refl _
        · exact Int32.le_of_lt (below other later)
      · rintro ⟨member, lowest⟩
        rcases List.mem_cons.mp member with rfl | later
        · rfl
        · exact absurd (below address later) (Int32.not_lt.mpr (lowest least List.mem_cons_self))

end Graph
end Playscript
