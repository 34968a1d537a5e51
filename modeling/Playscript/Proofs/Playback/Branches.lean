import Playscript.Playback.Step
import Playscript.Proofs.Except
import Playscript.Proofs.Graph.Lookup

/-!
The branch records that make up one menu: a run of consecutive addresses that ends where a record
is missing, is no branch, or would lie beyond the last address.
-/

namespace Playscript

namespace Address

theorem toInt_maxValue : Int32.maxValue.toInt = 2147483647 := by
  decide

theorem toInt_add_one {address : Address} (more : address.toInt ≠ 2147483647) :
    (address + 1).toInt = address.toInt + 1 := by
  have lower := Int32.le_toInt address
  have upper := Int32.toInt_lt address
  have one : (1 : Int32).toInt = 1 := by decide
  rw [Int32.toInt_add, one]
  exact Int.bmod_eq_of_le (by omega) (by omega)

theorem next?_eq_none_iff (address : Address) :
    next? address = none ↔ address.toInt = 2147483647 := by
  rw [next?, ← toInt_maxValue, Int32.toInt_inj]
  split <;> simp_all

theorem next?_eq_some_iff (address following : Address) :
    next? address = some following ↔ following.toInt = address.toInt + 1 := by
  by_cases last : address = Int32.maxValue
  · have bound := Int32.toInt_lt following
    simp only [next?, last, if_true, toInt_maxValue, reduceCtorEq, false_iff]
    omega
  · have more : address.toInt ≠ 2147483647 := by
      rw [← toInt_maxValue]
      exact fun same => last (Int32.toInt_inj.mp same)
    simp only [next?, last, if_false, Option.some.injEq]
    rw [← toInt_add_one more, Int32.toInt_inj, eq_comm]

end Address

namespace Graph

structure IsFrom (graph : Graph) (address : Address) (records : List Record) : Prop where
  ascending : Ascending records
  covers (record : Record) : record ∈ records ↔ record ∈ graph.records ∧ address ≤ record.address

namespace IsFrom

variable {graph : Graph} {address : Address} {head : Record} {rest : List Record}

theorem mem {records : List Record} (isFrom : graph.IsFrom address records) {record : Record}
    (found : graph.get? address = some record) : record ∈ records := by
  rw [isFrom.covers, address_of_get? found]
  exact ⟨mem_of_get? found, Int32.le_rfl⟩

theorem eq_head (isFrom : graph.IsFrom address (head :: rest)) {record : Record}
    (found : graph.get? address = some record) : record = head := by
  obtain ⟨below, _⟩ := List.pairwise_cons.1 isFrom.ascending
  have headAbove := ((isFrom.covers head).mp List.mem_cons_self).2
  rcases List.mem_cons.1 (isFrom.mem found) with same | later
  · exact same
  · have above := below record later
    rw [address_of_get? found] at above
    exact absurd (Int32.lt_of_le_of_lt headAbove above) Int32.lt_irrefl

theorem tail (isFrom : graph.IsFrom address (head :: rest)) (here : head.address = address)
    {next : Address} (following : address.next? = some next) : graph.IsFrom next rest := by
  obtain ⟨below, ascending⟩ := List.pairwise_cons.1 isFrom.ascending
  rw [Address.next?_eq_some_iff] at following
  refine ⟨ascending, ?_⟩
  intro record
  rw [Int32.le_iff_toInt_le, following]
  constructor
  · intro later
    have above := below record later
    rw [Int32.lt_iff_toInt_lt, here] at above
    exact ⟨((isFrom.covers record).mp (List.mem_cons_of_mem head later)).1, by omega⟩
  · rintro ⟨member, above⟩
    have listed : record ∈ head :: rest := by
      rw [isFrom.covers, Int32.le_iff_toInt_le]
      exact ⟨member, by omega⟩
    rcases List.mem_cons.1 listed with rfl | later
    · rw [here] at above
      omega
    · exact later

end IsFrom

theorem mem_dropWhile_before {records : List Record} (ascending : Ascending records)
    (address : Address) (record : Record) :
    record ∈ records.dropWhile (fun record => record.address < address) ↔
      record ∈ records ∧ address ≤ record.address := by
  induction records with
  | nil => simp
  | cons head rest ih =>
      obtain ⟨below, tail⟩ := List.pairwise_cons.1 ascending
      by_cases before : head.address < address
      · rw [List.dropWhile_cons_of_pos (by simpa using before), ih tail, List.mem_cons]
        constructor
        · rintro ⟨later, above⟩
          exact ⟨Or.inr later, above⟩
        · rintro ⟨rfl | later, above⟩
          · exact absurd before (Int32.not_lt.mpr above)
          · exact ⟨later, above⟩
      · rw [List.dropWhile_cons_of_neg (by simpa using before)]
        have headAbove := Int32.not_lt.mp before
        constructor
        · intro listed
          refine ⟨listed, ?_⟩
          rcases List.mem_cons.1 listed with rfl | later
          · exact headAbove
          · exact Int32.le_trans headAbove (Int32.le_of_lt (below record later))
        · exact fun listed => listed.1

theorem isFrom_dropWhile (graph : Graph) (address : Address) :
    graph.IsFrom address (graph.records.dropWhile fun record => record.address < address) where
  ascending := graph.ascending.sublist (List.dropWhile_sublist _)
  covers := mem_dropWhile_before graph.ascending address

end Graph

namespace Production

/-- The branch records from a cursor on, up to the first address without one. -/
inductive BranchRun (production : Production) : Option Address → List Record → Prop
  | past : BranchRun production none []
  | stop {address : Address} :
      (∀ record, production.graph.get? address = some record →
        production.kindOf? record ≠ some .branch) →
      BranchRun production (some address) []
  | more {address : Address} {record : Record} {rest : List Record} :
      production.graph.get? address = some record →
      production.kindOf? record = some .branch →
      BranchRun production address.next? rest →
      BranchRun production (some address) (record :: rest)

theorem isBranch_iff (production : Production) (record : Record) :
    production.isBranch record = true ↔ production.kindOf? record = some .branch := by
  simp [isBranch]

theorem branchRun_of_isFrom {production : Production} {address : Address} {records : List Record}
    (isFrom : production.graph.IsFrom address records) :
    production.BranchRun (some address) (production.branchRun address records) := by
  induction records generalizing address with
  | nil => exact .stop fun record found => absurd (isFrom.mem found) List.not_mem_nil
  | cons head rest ih =>
      by_cases here : head.address = address ∧ production.isBranch head = true
      · have found : production.graph.get? address = some head :=
          (production.graph.get?_eq_some_iff address head).mpr
            ⟨((isFrom.covers head).mp List.mem_cons_self).1, here.1⟩
        rw [branchRun, if_pos here]
        apply BranchRun.more found ((production.isBranch_iff head).mp here.2)
        cases following : address.next? with
        | none => exact .past
        | some next => exact ih (isFrom.tail here.1 following)
      · rw [branchRun, if_neg here]
        -- A branch at the address could only be the head, which is none or stands elsewhere.
        apply BranchRun.stop
        intro record found branch
        obtain rfl := isFrom.eq_head found
        exact here ⟨Graph.address_of_get? found, (production.isBranch_iff _).mpr branch⟩

theorem branches_run (production : Production) (address : Address) :
    production.BranchRun (some address) (production.branches address) :=
  branchRun_of_isFrom (production.graph.isFrom_dropWhile address)

namespace BranchRun

variable {production : Production} {address : Address} {records : List Record}

theorem getElem? {cursor : Option Address} (run : production.BranchRun cursor records)
    (begins : cursor = some address) {index : Nat} {record : Record}
    (found : records[index]? = some record) :
    record.address.toInt = address.toInt + index ∧
      production.graph.get? record.address = some record ∧
      production.kindOf? record = some .branch := by
  induction run generalizing address index with
  | past => simp at found
  | stop _ => simp at found
  | @more start head rest present branch later ih =>
      obtain rfl : start = address := Option.some.inj begins
      cases index with
      | zero =>
          obtain rfl : head = record := by simpa using found
          rw [Graph.address_of_get? present]
          exact ⟨by simp, present, branch⟩
      | succ index =>
          rw [List.getElem?_cons_succ] at found
          cases following : start.next? with
          | none =>
              rw [following] at later
              cases later
              simp at found
          | some next =>
              obtain ⟨place, rest⟩ := ih following found
              rw [Address.next?_eq_some_iff] at following
              exact ⟨by omega, rest⟩

theorem maximal {cursor : Option Address} (run : production.BranchRun cursor records)
    (begins : cursor = some address) {after : Address} {record : Record}
    (place : after.toInt = address.toInt + records.length)
    (found : production.graph.get? after = some record) :
    production.kindOf? record ≠ some .branch := by
  induction run generalizing address with
  | past => contradiction
  | @stop start none =>
      obtain rfl : start = address := Option.some.inj begins
      obtain rfl : after = start := by
        rw [← Int32.toInt_inj]
        simpa using place
      exact none record found
  | @more start head rest present branch later ih =>
      obtain rfl : start = address := Option.some.inj begins
      rw [List.length_cons] at place
      cases following : start.next? with
      | none =>
          have bound := Int32.toInt_lt after
          rw [Address.next?_eq_none_iff] at following
          omega
      | some next =>
          apply ih following
          rw [Address.next?_eq_some_iff] at following
          omega

end BranchRun

theorem requireJump_eq_ok_iff (record : Record) (target : Address) :
    requireJump record = .ok target ↔ record.jump = some target := by
  cases jump : record.jump <;> simp [requireJump, jump]

theorem requireJump_eq_error_iff (record : Record) (fault : Fault) :
    requireJump record = .error fault ↔
      record.jump = none ∧ fault = .jumpMissing record.address := by
  cases jump : record.jump <;> simp [requireJump, jump, eq_comm]

theorem branchOptions_getElem? {first : Nat} {records : List Record} {options : List BranchOption}
    (collected : branchOptions first records = .ok options) (index : Nat) :
    options[index]? = records[index]?.bind fun record => record.jump.map fun target =>
      ⟨first + index, record.address, record.body, target⟩ := by
  induction records generalizing first options index with
  | nil =>
      obtain rfl : [] = options := Except.ok.inj collected
      simp
  | cons record rest ih =>
      simp only [branchOptions, bind_eq_ok_iff, pure_eq_ok_iff, requireJump_eq_ok_iff] at collected
      obtain ⟨target, jump, others, collectedRest, rfl⟩ := collected
      cases index with
      | zero => simp [jump]
      | succ index =>
          rw [List.getElem?_cons_succ, List.getElem?_cons_succ, ih collectedRest]
          simp [Nat.add_comm, Nat.add_left_comm]

theorem branchOptions_length {first : Nat} {records : List Record} {options : List BranchOption}
    (collected : branchOptions first records = .ok options) :
    options.length = records.length := by
  induction records generalizing first options with
  | nil =>
      obtain rfl : [] = options := Except.ok.inj collected
      rfl
  | cons record rest ih =>
      simp only [branchOptions, bind_eq_ok_iff, pure_eq_ok_iff] at collected
      obtain ⟨target, _, others, collectedRest, rfl⟩ := collected
      simp [ih collectedRest]

theorem branchOptions_fault {first : Nat} {records : List Record} {fault : Fault}
    (failed : branchOptions first records = .error fault) :
    ∃ record ∈ records, record.jump = none ∧ fault = .jumpMissing record.address := by
  induction records generalizing first with
  | nil => contradiction
  | cons record rest ih =>
      cases jump : requireJump record with
      | error cause =>
          obtain ⟨missing, rfl⟩ := (requireJump_eq_error_iff record cause).mp jump
          simp only [branchOptions, jump, bind, Except.bind, Except.error.injEq] at failed
          exact ⟨record, List.mem_cons_self, missing, failed.symm⟩
      | ok target =>
          cases later : branchOptions (first + 1) rest with
          | ok options =>
              simp [branchOptions, jump, later, bind, Except.bind, pure, Except.pure] at failed
          | error cause =>
              simp only [branchOptions, jump, later, bind, Except.bind,
                Except.error.injEq] at failed
              subst failed
              obtain ⟨other, member, missing, named⟩ := ih later
              exact ⟨other, List.mem_cons_of_mem record member, missing, named⟩

end Production
end Playscript
