import Mathlib.Order.Bounds.Defs
import Playscript.Proofs.Playback.Advance

/-!
How a menu is collected. A branch line brings up all the branch records that follow it without a
gap, and either every one of them has a jump, or the first without one is named and there is no menu.
-/

namespace Playscript

namespace Production

def HoldsBranches (production : Production) (address : Address) (count : Nat) : Prop :=
  ∀ index < count, ∃ place record, place.toInt = address.toInt + index ∧
    production.graph.get? place = some record ∧ production.kindOf? record = some .branch

variable {production : Production} {address : Address} {run : List Record}

theorem BranchRun.isGreatest_length (branchRun : production.BranchRun (some address) run) :
    IsGreatest {count | production.HoldsBranches address count} run.length := by
  constructor
  · intro index within
    obtain ⟨record, listed⟩ : ∃ record, run[index]? = some record :=
      ⟨_, List.getElem?_eq_getElem within⟩
    obtain ⟨place, found, branch⟩ := branchRun.getElem? rfl listed
    exact ⟨record.address, record, place, found, branch⟩
  · intro count holds
    apply Nat.not_lt.mp
    intro longer
    obtain ⟨place, record, here, found, branch⟩ := holds run.length longer
    exact branchRun.maximal rfl here found branch

theorem BranchRun.ne_nil (branchRun : production.BranchRun (some address) run) {record : Record}
    (found : production.graph.get? address = some record)
    (branch : production.kindOf? record = some .branch) : run ≠ [] := by
  rintro rfl
  exact branchRun.maximal rfl (by simp) found branch

theorem branchOptions_cases (records : List Record) (first : Nat) :
    ((∀ record ∈ records, record.jump ≠ none) ∧
      ∃ options, branchOptions first records = .ok options) ∨
    ∃ before record after, records = before ++ record :: after ∧
      (∀ earlier ∈ before, earlier.jump ≠ none) ∧ record.jump = none ∧
      branchOptions first records = .error (.jumpMissing record.address) := by
  induction records generalizing first with
  | nil => exact .inl ⟨nofun, [], rfl⟩
  | cons record rest ih =>
      cases jump : record.jump with
      | none =>
          have fails : requireJump record = .error (.jumpMissing record.address) :=
            (requireJump_eq_error_iff record _).mpr ⟨jump, rfl⟩
          refine .inr ⟨[], record, rest, rfl, nofun, jump, ?_⟩
          simp only [branchOptions, fails]
          rfl
      | some target =>
          have goesOn : record.jump ≠ none := by simp [jump]
          have leads := (requireJump_eq_ok_iff record target).mpr jump
          rcases ih (first + 1) with ⟨jumps, options, collected⟩ |
              ⟨before, stuck, after, split, jumps, missing, failed⟩
          · refine .inl ⟨List.forall_mem_cons.mpr ⟨goesOn, jumps⟩, ?_⟩
            refine ⟨⟨first, record.address, record.body, target⟩ :: options, ?_⟩
            simp only [branchOptions, leads, collected, ok_bind]
            rfl
          · refine .inr ⟨record :: before, stuck, after, congrArg (record :: ·) split,
              List.forall_mem_cons.mpr ⟨goesOn, jumps⟩, missing, ?_⟩
            simp only [branchOptions, leads, ok_bind, failed]
            rfl

end Production

/-- The menu is the longest stretch of branch records, one option for each, or the first of them
without a jump is named. -/
theorem branchRun_collected (production : Production) (playback : Playback) {address : Address}
    {record : Record} (found : production.graph.get? address = some record)
    (branch : production.kindOf? record = some .branch) :
    let step := playback.dispatch production record .branch
    ∃ run, production.BranchRun (some address) run ∧ run ≠ [] ∧
      IsGreatest {count | production.HoldsBranches address count} run.length ∧
      (∀ (index : Nat) (member : Record), run[index]? = some member →
        member.address.toInt = address.toInt + index ∧
        production.graph.get? member.address = some member) ∧
      (((∀ member ∈ run, member.jump ≠ none) ∧ ∃ options,
        step = ⟨.ok (.choices options), [.optionsPresented options],
          { playback with phase := .awaitingChoice, pending := options }⟩ ∧
        options.length = run.length ∧
        ∀ index : Nat, options[index]? = run[index]?.bind fun member => member.jump.map fun target =>
          ⟨index, member.address, member.body, target⟩) ∨
      ∃ before member after, run = before ++ member :: after ∧
        (∀ earlier ∈ before, earlier.jump ≠ none) ∧ member.jump = none ∧
        step = ⟨.error (.jumpMissing member.address), [], playback⟩) := by
  intro step
  obtain rfl : record.address = address := Graph.address_of_get? found
  have branchRun := production.branches_run record.address
  refine ⟨production.branches record.address, branchRun, branchRun.ne_nil found branch,
    branchRun.isGreatest_length, ?_, ?_⟩
  · intro index member listed
    obtain ⟨place, present, _⟩ := branchRun.getElem? rfl listed
    exact ⟨place, present⟩
  rcases Production.branchOptions_cases (production.branches record.address) 0 with
    ⟨jumps, options, collected⟩ | ⟨before, member, after, split, jumps, missing, failed⟩
  · refine .inl ⟨jumps, options, ?_, Production.branchOptions_length collected, fun index => ?_⟩
    · simp only [step, Playback.dispatch, collected]
    · simpa using Production.branchOptions_getElem? collected index
  · refine .inr ⟨before, member, after, split, jumps, missing, ?_⟩
    simp only [step, Playback.dispatch, failed]
    rfl

/-- A performance whose menu ends with the last address of all. -/
def brink : Production where
  graph := ⟨[
    ⟨-1, "END", "", "", none, "default"⟩,
    ⟨2147483646, " o ", "", "Hold on", some (-1), "default"⟩,
    ⟨2147483647, "O", "", "Let go", some (-1), "default"⟩], by unfold Ascending; decide⟩
  config := {}
  cast := .nobody
  entry := 2147483646
  mode := .manual
  interval := Config.revealStep {}
  units := Units.chars
  observers := []

theorem branchRun_atBrink :
    let record : Record := ⟨2147483646, " o ", "", "Hold on", some (-1), "default"⟩
    let menu : List BranchOption := [⟨0, 2147483646, "Hold on", -1⟩, ⟨1, 2147483647, "Let go", -1⟩]
    brink.graph.get? 2147483646 = some record ∧ brink.kindOf? record = some .branch ∧
    (brink.opening.dispatch brink record .branch).events = [.optionsPresented menu] ∧
    IsGreatest {count | brink.HoldsBranches 2147483646 count} menu.length := by
  intro record menu
  have found : brink.graph.get? 2147483646 = some record := by decide
  have branch : brink.kindOf? record = some .branch := by decide +kernel
  have events : (brink.opening.dispatch brink record .branch).events = [.optionsPresented menu] := by
    decide +kernel
  obtain ⟨run, _, _, greatest, _, ⟨_, options, offers, length, _⟩ | ⟨_, _, _, _, _, _, fails⟩⟩ :=
    branchRun_collected brink brink.opening found branch
  · obtain rfl : options = menu := by simpa [offers] using events
    rw [length]
    exact ⟨found, branch, events, greatest⟩
  · simp [fails] at events

end Playscript
