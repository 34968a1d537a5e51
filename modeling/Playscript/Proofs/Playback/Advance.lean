import Playscript.Proofs.Playback.Branches

/-!
What an advance and a choice can come to. Each case names the state it arises in, the result, the
events and the state after it; later proofs split into these cases and open no definition.
-/

namespace Playscript

def Playback.IsPlaying (playback : Playback) : Prop :=
  playback.phase = .ready ∨ playback.phase = .presenting

namespace Production

inductive Shows (production : Production) (record : Record) (target : Address) :
    LineKind → View → Prop
  | spoken : Shows production record target .speech (production.showSpeech record target)
  | told : Shows production record target .narration (production.showNarration record target)

/-- Why a record cannot be played: its tag, its own jump, or a jump of the menu it begins. -/
inductive Blocked (production : Production) (record : Record) : Fault → Prop
  | tag : production.kindOf? record = none →
      Blocked production record (.tagUnknown record.address record.tag)
  | line {kind : LineKind} : production.kindOf? record = some kind →
      kind = .speech ∨ kind = .narration → record.jump = none →
      Blocked production record (.jumpMissing record.address)
  | menu {fault : Fault} : production.kindOf? record = some .branch →
      branchOptions 0 (production.branches record.address) = .error fault →
      Blocked production record fault

theorem Blocked.of_record {production : Production} {record : Record} {fault : Fault}
    (blocked : production.Blocked record fault) :
    (∃ address tag, fault = .tagUnknown address tag) ∨ ∃ address, fault = .jumpMissing address := by
  cases blocked with
  | tag => exact Or.inl ⟨_, _, rfl⟩
  | line => exact Or.inr ⟨_, rfl⟩
  | menu _ failed =>
      obtain ⟨record, _, _, named⟩ := branchOptions_fault failed
      exact Or.inr ⟨record.address, named⟩

theorem Shows.cursor {production : Production} {record : Record} {target : Address}
    {kind : LineKind} {view : View} (shows : production.Shows record target kind view) :
    view.cursor = target := by
  cases shows with
  | spoken =>
      unfold showSpeech
      split <;> rfl
  | told => rfl

theorem Shows.shown {production : Production} {record : Record} {target : Address}
    {kind : LineKind} {view : View} (shows : production.Shows record target kind view) :
    view.shown = some record.address := by
  cases shows with
  | spoken =>
      unfold showSpeech
      split <;> rfl
  | told => rfl

theorem Shows.body {production : Production} {record : Record} {target : Address}
    {kind : LineKind} {view : View} (shows : production.Shows record target kind view) :
    view.body = production.config.indentedBody record.body := by
  cases shows with
  | spoken =>
      unfold showSpeech
      split <;> rfl
  | told => rfl

end Production

namespace Playback

inductive Advanced (production : Production) (playback : Playback) :
    Step (Except Fault Outcome) → Prop
  | finished : playback.phase = .terminated →
      Advanced production playback ⟨.ok .ended, [], playback⟩
  | waiting : playback.phase = .awaitingChoice →
      Advanced production playback ⟨.ok (.choices playback.pending), [], playback⟩
  | astray : playback.IsPlaying → production.graph.get? playback.view.cursor = none →
      Advanced production playback ⟨.error (.addressMissing playback.view.cursor), [], playback⟩
  | blocked {record : Record} {fault : Fault} : playback.IsPlaying →
      production.graph.get? playback.view.cursor = some record →
      production.Blocked record fault →
      Advanced production playback ⟨.error fault, production.observe playback.view, playback⟩
  | shown {record : Record} {target : Address} {kind : LineKind} {view : View} :
      playback.IsPlaying → production.graph.get? playback.view.cursor = some record →
      production.kindOf? record = some kind → record.jump = some target →
      production.Shows record target kind view →
      Advanced production playback ⟨.ok (.line playback.view.cursor kind),
        production.observe playback.view ++ .recorded record :: view.rendering,
        playback.present production view⟩
  | offered {record : Record} {options : List BranchOption} :
      playback.IsPlaying → production.graph.get? playback.view.cursor = some record →
      production.kindOf? record = some .branch →
      Production.branchOptions 0 (production.branches record.address) = .ok options →
      Advanced production playback ⟨.ok (.choices options),
        production.observe playback.view ++ [.optionsPresented options],
        { playback with phase := .awaitingChoice, pending := options }⟩
  | ended {record : Record} :
      playback.IsPlaying → production.graph.get? playback.view.cursor = some record →
      production.kindOf? record = some .terminate →
      Advanced production playback ⟨.ok .ended,
        production.observe playback.view ++ [.terminated record],
        { playback with phase := .terminated }⟩

theorem dispatch_line {production : Production} {playback : Playback} {record : Record}
    {kind : LineKind} (playing : playback.IsPlaying)
    (found : production.graph.get? playback.view.cursor = some record)
    (known : production.kindOf? record = some kind) (isLine : kind = .speech ∨ kind = .narration) :
    Advanced production playback ⟨(playback.dispatch production record kind).result,
      production.observe playback.view ++ (playback.dispatch production record kind).events,
      (playback.dispatch production record kind).next⟩ := by
  cases jump : Production.requireJump record with
  | error fault =>
      obtain ⟨missing, rfl⟩ := (Production.requireJump_eq_error_iff _ _).mp jump
      have failed : playback.dispatch production record kind =
          playback.failedStep (.jumpMissing record.address) := by
        rcases isLine with rfl | rfl <;> simp only [dispatch, jump]
      rw [failed, failedStep, List.append_nil]
      exact .blocked playing found (.line known isLine missing)
  | ok target =>
      have jumps := (Production.requireJump_eq_ok_iff _ _).mp jump
      rcases isLine with rfl | rfl
      · simp only [dispatch, jump, shownStep]
        exact .shown playing found known jumps .spoken
      · simp only [dispatch, jump, shownStep]
        exact .shown playing found known jumps .told

theorem dispatch_menu {production : Production} {playback : Playback} {record : Record}
    (playing : playback.IsPlaying)
    (found : production.graph.get? playback.view.cursor = some record)
    (known : production.kindOf? record = some .branch) :
    Advanced production playback ⟨(playback.dispatch production record .branch).result,
      production.observe playback.view ++ (playback.dispatch production record .branch).events,
      (playback.dispatch production record .branch).next⟩ := by
  cases collected : Production.branchOptions 0 (production.branches record.address) with
  | error fault =>
      simp only [dispatch, collected, failedStep, List.append_nil]
      exact .blocked playing found (.menu known collected)
  | ok options =>
      simp only [dispatch, collected]
      exact .offered playing found known collected

theorem playCursor_advanced (production : Production) (playback : Playback)
    (playing : playback.IsPlaying) :
    Advanced production playback (playback.playCursor production) := by
  cases found : production.graph.get? playback.view.cursor with
  | none =>
      simp only [playCursor, found]
      exact .astray playing found
  | some record =>
      cases known : production.kindOf? record with
      | none =>
          simp only [playCursor, found, known, failedStep, List.append_nil]
          have unknown := Production.Blocked.tag known
          rw [Graph.address_of_get? found] at unknown
          exact .blocked playing found unknown
      | some kind =>
          simp only [playCursor, found, known]
          cases kind with
          | speech => exact dispatch_line playing found known (Or.inl rfl)
          | narration => exact dispatch_line playing found known (Or.inr rfl)
          | branch => exact dispatch_menu playing found known
          | terminate => exact .ended playing found known

theorem advance_advanced (production : Production) (playback : Playback) :
    Advanced production playback (playback.advance production) := by
  unfold advance
  split
  · rename_i phase
    exact .finished phase
  · rename_i phase
    exact .waiting phase
  · rename_i phase
    exact playCursor_advanced production playback (Or.inl phase)
  · rename_i phase
    exact playCursor_advanced production playback (Or.inr phase)

theorem advance_of_playing {production : Production} {playback : Playback}
    (playing : playback.IsPlaying) : playback.advance production = playback.playCursor production := by
  rcases playing with ready | presenting
  · simp only [advance, ready]
  · simp only [advance, presenting]

theorem advance_of_missing {production : Production} {playback : Playback}
    (playing : playback.IsPlaying)
    (missing : production.graph.get? playback.view.cursor = none) :
    playback.advance production = playback.failedStep (.addressMissing playback.view.cursor) := by
  rw [advance_of_playing playing]
  simp only [playCursor, missing]

theorem advance_of_line {production : Production} {playback : Playback} {record : Record}
    {kind : LineKind} {target : Address} (playing : playback.IsPlaying)
    (found : production.graph.get? playback.view.cursor = some record)
    (known : production.kindOf? record = some kind) (isLine : kind = .speech ∨ kind = .narration)
    (jump : record.jump = some target) :
    ∃ view, production.Shows record target kind view ∧
      playback.advance production = ⟨.ok (.line playback.view.cursor kind),
        production.observe playback.view ++ .recorded record :: view.rendering,
        playback.present production view⟩ := by
  have jumps := (Production.requireJump_eq_ok_iff record target).mpr jump
  rw [advance_of_playing playing]
  rcases isLine with rfl | rfl
  · exact ⟨_, .spoken, by simp only [playCursor, found, known, dispatch, jumps, shownStep]⟩
  · exact ⟨_, .told, by simp only [playCursor, found, known, dispatch, jumps, shownStep]⟩

theorem advance_of_menu {production : Production} {playback : Playback} {record : Record}
    {options : List BranchOption} (playing : playback.IsPlaying)
    (found : production.graph.get? playback.view.cursor = some record)
    (branch : production.kindOf? record = some .branch)
    (collected : Production.branchOptions 0 (production.branches record.address) = .ok options) :
    playback.advance production = ⟨.ok (.choices options),
      production.observe playback.view ++ [.optionsPresented options],
      { playback with phase := .awaitingChoice, pending := options }⟩ := by
  rw [advance_of_playing playing]
  simp only [playCursor, found, branch, dispatch, collected]

theorem advance_of_end {production : Production} {playback : Playback} {record : Record}
    (playing : playback.IsPlaying)
    (found : production.graph.get? playback.view.cursor = some record)
    (ends : production.kindOf? record = some .terminate) :
    playback.advance production = ⟨.ok .ended,
      production.observe playback.view ++ [.terminated record],
      { playback with phase := .terminated }⟩ := by
  rw [advance_of_playing playing]
  simp only [playCursor, found, ends, dispatch]

theorem advance_fault {production : Production} {playback : Playback} {fault : Fault}
    (failed : (playback.advance production).result = .error fault) :
    (playback.IsPlaying ∧ production.graph.get? playback.view.cursor = none ∧
      fault = .addressMissing playback.view.cursor) ∨
    (∃ record, playback.IsPlaying ∧ production.graph.get? playback.view.cursor = some record ∧
      production.Blocked record fault) := by
  have advanced := advance_advanced production playback
  generalize playback.advance production = step at advanced failed
  cases advanced with
  | finished | waiting | shown | offered | ended => simp at failed
  | astray playing missing => exact Or.inl ⟨playing, missing, (Except.error.inj failed).symm⟩
  | blocked playing found blocked =>
      obtain rfl := Except.error.inj failed
      exact Or.inr ⟨_, playing, found, blocked⟩

inductive Chosen (production : Production) (playback : Playback) (index : Nat) :
    Step (Except Fault Outcome) → Prop
  | idle : playback.phase ≠ .awaitingChoice ∨ playback.pending = [] →
      Chosen production playback index ⟨.error .noPendingChoice, [], playback⟩
  | outOfRange : playback.phase = .awaitingChoice → playback.pending[index]? = none →
      Chosen production playback index ⟨.error (.choiceOutOfRange index), [], playback⟩
  | followed {option : BranchOption} : playback.phase = .awaitingChoice →
      playback.pending[index]? = some option →
      Chosen production playback index (playback.follow production option)

theorem choose_chosen (production : Production) (playback : Playback) (index : Nat) :
    Chosen production playback index (playback.choose production index) := by
  unfold choose
  split
  · rename_i idle
    exact .idle idle
  · rename_i offering
    have awaiting : playback.phase = .awaitingChoice :=
      Decidable.of_not_not fun other => offering (Or.inl other)
    split
    · rename_i missing
      exact .outOfRange awaiting missing
    · rename_i option found
      exact .followed awaiting found

theorem choose_of_option {production : Production} {playback : Playback} {index : Nat}
    {option : BranchOption} (awaiting : playback.phase = .awaitingChoice)
    (found : playback.pending[index]? = some option) :
    playback.choose production index = playback.follow production option := by
  have offering : playback.pending ≠ [] := by
    intro empty
    simp [empty] at found
  simp [choose, awaiting, offering, found]

theorem follow_of_record {production : Production} {option : BranchOption} {record : Record}
    (present : production.graph.get? option.address = some record) (playback : Playback) :
    playback.follow production option =
      ⟨((playback.moveTo option.target .presenting).advance production).result,
        .recorded record :: .optionsCleared ::
          ((playback.moveTo option.target .presenting).advance production).events,
        ((playback.moveTo option.target .presenting).advance production).next⟩ := by
  simp [follow, present]

theorem jumpTo_of_contains {production : Production} {address : Address}
    (present : production.graph.contains address = true) (playback : Playback) :
    playback.jumpTo production address = ⟨.ok (), playback.clearingEvents,
      playback.moveTo address (if playback.phase = .ready then .ready else .presenting)⟩ := by
  simp [jumpTo, present]

theorem jumpTo_of_missing {production : Production} {address : Address}
    (missing : ¬production.graph.contains address = true) (playback : Playback) :
    playback.jumpTo production address = ⟨.error (.addressMissing address), [], playback⟩ := by
  simp [jumpTo, missing, failedStep]

end Playback
end Playscript
