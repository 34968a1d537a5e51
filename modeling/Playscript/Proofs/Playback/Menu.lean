import Playscript.Proofs.Playback.Run

/-!
The pending menu. A state that a performance reaches has one exactly while it awaits a choice, and
then it is the whole run of branch records at the cursor.
-/

namespace Playscript

/-- The menu of the branch records at consecutive addresses from the cursor on, all of them. -/
structure Production.MenuAt (production : Production) (cursor : Address)
    (menu : List BranchOption) : Prop where
  option (index : Nat) (option : BranchOption) : menu[index]? = some option →
    option.index = index ∧ option.address.toInt = cursor.toInt + index ∧
    ∃ record, production.graph.get? option.address = some record ∧
      production.kindOf? record = some .branch ∧ option.label = record.body ∧
      record.jump = some option.target
  maximal (after : Address) (record : Record) : after.toInt = cursor.toInt + menu.length →
    production.graph.get? after = some record → production.kindOf? record ≠ some .branch

theorem Production.menuAt_of_collected {production : Production} {cursor : Address}
    {menu : List BranchOption}
    (collected : branchOptions 0 (production.branches cursor) = .ok menu) :
    production.MenuAt cursor menu := by
  have run := production.branches_run cursor
  constructor
  · intro index option found
    rw [branchOptions_getElem? collected, Option.bind_eq_some_iff] at found
    obtain ⟨record, listed, made⟩ := found
    obtain ⟨target, jump, rfl⟩ := Option.map_eq_some_iff.mp made
    obtain ⟨place, present, branch⟩ := run.getElem? rfl listed
    exact ⟨Nat.zero_add index, place, record, present, branch, rfl, jump⟩
  · intro after record place found
    rw [branchOptions_length collected] at place
    exact run.maximal rfl place found

theorem Production.menu_ne_nil {production : Production} {record : Record}
    {menu : List BranchOption} (found : production.graph.get? record.address = some record)
    (branch : production.kindOf? record = some .branch)
    (collected : branchOptions 0 (production.branches record.address) = .ok menu) : menu ≠ [] := by
  rintro rfl
  have menuAt := menuAt_of_collected collected
  exact menuAt.maximal record.address record (by simp) found branch

structure MenuInvariant (production : Production) (playback : Playback) : Prop where
  idle : playback.phase ≠ .awaitingChoice → playback.pending = []
  offered : playback.phase = .awaitingChoice →
    playback.pending ≠ [] ∧ production.MenuAt playback.view.cursor playback.pending

namespace MenuInvariant

variable {production : Production} {playback : Playback}

theorem of_pending_nil (calm : playback.phase ≠ .awaitingChoice) (empty : playback.pending = []) :
    MenuInvariant production playback :=
  ⟨fun _ => empty, fun awaiting => absurd awaiting calm⟩

theorem pending_nil (invariant : MenuInvariant production playback) (playing : playback.IsPlaying) :
    playback.pending = [] := by
  apply invariant.idle
  rcases playing with ready | presenting
  · rw [ready]
    decide
  · rw [presenting]
    decide

theorem advance (invariant : MenuInvariant production playback) :
    MenuInvariant production (playback.advance production).next := by
  have advanced := Playback.advance_advanced production playback
  generalize playback.advance production = step at advanced ⊢
  cases advanced with
  | finished | waiting | astray | blocked => exact invariant
  | shown playing =>
      exact of_pending_nil (by simp [Playback.present]) (invariant.pending_nil playing)
  | ended playing => exact of_pending_nil (by simp) (invariant.pending_nil playing)
  | offered playing found branch collected =>
      -- The menu is collected from the address of the record, which is the cursor.
      refine ⟨fun calm => absurd rfl calm, fun _ => ?_⟩
      have here := Graph.address_of_get? found
      constructor
      · exact Production.menu_ne_nil (by rw [here]; exact found) branch collected
      · rw [← here]
        exact Production.menuAt_of_collected collected

theorem kept (production : Production) : Kept production (MenuInvariant production) where
  opening := of_pending_nil (by simp [Production.opening]) rfl
  advance _ invariant := invariant.advance
  follow _ _ _ _ _ := of_pending_nil (by simp [Playback.moveTo]) rfl
  jump _ _ phase _ _ moved := by
    apply of_pending_nil _ rfl
    rcases moved with ⟨ready, _⟩ | presenting
    · simp [Playback.moveTo, ready]
    · simp [Playback.moveTo, presenting]
  reveal _ _ _ invariant _ _ := ⟨invariant.idle, invariant.offered⟩

theorem awaiting_iff (invariant : MenuInvariant production playback) :
    playback.phase = .awaitingChoice ↔ playback.pending ≠ [] := by
  constructor
  · exact fun awaiting => (invariant.offered awaiting).1
  · exact fun pending => Decidable.of_not_not fun calm => pending (invariant.idle calm)

end MenuInvariant

namespace Playback

/-- The line that an accepted choice leads to may still fail. -/
def Accepts (production : Production) (playback : Playback) (index : Nat) : Prop :=
  (playback.choose production index).result ≠ .error .noPendingChoice ∧
    (playback.choose production index).result ≠ .error (.choiceOutOfRange index)

theorem advance_not_refused (production : Production) (playback : Playback) (fault : Fault)
    (failed : (playback.advance production).result = .error fault) :
    fault ≠ .noPendingChoice ∧ ∀ index, fault ≠ .choiceOutOfRange index := by
  rcases advance_fault failed with ⟨_, _, rfl⟩ | ⟨record, _, _, blocked⟩
  · simp
  · rcases blocked.of_record with ⟨address, tag, rfl⟩ | ⟨address, rfl⟩
    · simp
    · simp

theorem accepts_iff {production : Production} {playback : Playback}
    (invariant : MenuInvariant production playback) (index : Nat) :
    playback.Accepts production index ↔ index < playback.pending.length := by
  have chosen := choose_chosen production playback index
  unfold Accepts
  generalize playback.choose production index = step at chosen ⊢
  cases chosen with
  | idle idle =>
      have empty : playback.pending = [] := idle.elim invariant.idle id
      simp [empty]
  | outOfRange _ missing =>
      have beyond := List.getElem?_eq_none_iff.mp missing
      simp [beyond]
  | followed _ found =>
      have within : index < playback.pending.length := (List.getElem?_eq_some_iff.mp found).1
      simp only [within, iff_true]
      constructor
      · exact fun failed => (advance_not_refused production _ _ failed).1 rfl
      · exact fun failed => (advance_not_refused production _ _ failed).2 index rfl

theorem run_advances_waiting {playback : Playback} (production : Production)
    (awaiting : playback.phase = .awaitingChoice) (count : Nat) :
    playback.run production (List.replicate count .advance) =
      ⟨List.replicate count (.outcome (.ok (.choices playback.pending))), [], playback⟩ := by
  have again : playback.advance production = ⟨.ok (.choices playback.pending), [], playback⟩ := by
    simp [advance, awaiting]
  induction count with
  | zero => rfl
  | succ count ih => simp [List.replicate_succ, run, perform, Step.map, again, ih]

theorem choose_records {production : Production} {playback : Playback}
    (awaiting : playback.phase = .awaitingChoice) {cursor : Address}
    (menuAt : production.MenuAt cursor playback.pending) {index : Nat} {option : BranchOption}
    (found : playback.pending[index]? = some option) :
    ∃ record later, production.graph.get? option.address = some record ∧
      (playback.choose production index).events = .recorded record :: .optionsCleared :: later := by
  obtain ⟨_, _, record, present, _⟩ := menuAt.option index option found
  rw [choose_of_option awaiting found, follow_of_record present]
  exact ⟨record, _, present, rfl⟩

end Playback

/-- A menu is pending exactly while a choice is awaited, and it is the whole run of branch records
at the cursor. -/
theorem pendingMenu_exact (production : Production) (moments : List Moment) :
    let playback := production.reached moments
    (playback.phase = .awaitingChoice ↔ playback.pending ≠ []) ∧
    (∀ index, playback.Accepts production index ↔ index < playback.pending.length) ∧
    (playback.phase = .awaitingChoice →
      production.MenuAt playback.view.cursor playback.pending ∧
      (∀ count, playback.run production (List.replicate count .advance) =
        ⟨List.replicate count (.outcome (.ok (.choices playback.pending))), [], playback⟩) ∧
      ∀ index option, playback.pending[index]? = some option →
        ∃ record later, production.graph.get? option.address = some record ∧
          (playback.choose production index).events =
            .recorded record :: .optionsCleared :: later) := by
  intro playback
  have invariant : MenuInvariant production playback :=
    (MenuInvariant.kept production).reached moments
  refine ⟨invariant.awaiting_iff, Playback.accepts_iff invariant, ?_⟩
  intro awaiting
  have menuAt := (invariant.offered awaiting).2
  refine ⟨menuAt, Playback.run_advances_waiting production awaiting, ?_⟩
  intro index option found
  exact Playback.choose_records awaiting menuAt found

theorem pendingMenu_atCrossroads :
    let playback := crossroads.reached [.host .advance, .host .advance]
    playback.phase = .awaitingChoice ∧
    playback.pending = [⟨0, 2, "Left", 4⟩, ⟨1, 3, "Right", 9⟩] ∧
    crossroads.MenuAt playback.view.cursor playback.pending ∧
    (∃ record later, crossroads.graph.get? 3 = some record ∧
      (playback.choose crossroads 1).events = .recorded record :: .optionsCleared :: later) ∧
    ¬playback.Accepts crossroads 2 := by
  intro playback
  have awaiting : playback.phase = .awaitingChoice := by decide +kernel
  have pending : playback.pending = [⟨0, 2, "Left", 4⟩, ⟨1, 3, "Right", 9⟩] := by decide +kernel
  obtain ⟨_, accepts, offered⟩ :=
    pendingMenu_exact crossroads [.host .advance, .host .advance]
  obtain ⟨menuAt, _, records⟩ := offered awaiting
  refine ⟨awaiting, pending, menuAt, ?_, ?_⟩
  · exact records 1 ⟨1, 3, "Right", 9⟩ (by decide +kernel)
  · intro accepted
    have inRange := (accepts 2).mp accepted
    change 2 < playback.pending.length at inRange
    rw [pending] at inRange
    contradiction

end Playscript
