import Playscript.Proofs.Playback.Menu

/-!
What a failed operation leaves behind: nothing but the calls of observers, or, when a choice was
made whose line cannot be played, the choice itself and no more.
-/

namespace Playscript

def OnlyObserved (events : List Event) : Prop :=
  ∀ event ∈ events, ∃ index view, event = .observed index view

theorem observe_onlyObserved (production : Production) (view : View) :
    OnlyObserved (production.observe view) := by
  intro event member
  obtain ⟨index, made⟩ := Production.exists_of_mem_observe member
  exact ⟨index, view, made⟩

namespace Playback

theorem advance_failed {production : Production} {playback : Playback} {fault : Fault}
    (failed : (playback.advance production).result = .error fault) :
    (playback.advance production).next = playback ∧
      OnlyObserved (playback.advance production).events := by
  have advanced := advance_advanced production playback
  generalize playback.advance production = step at advanced failed ⊢
  cases advanced with
  | finished | waiting | shown | offered | ended => simp at failed
  | astray => exact ⟨rfl, by simp [OnlyObserved]⟩
  | blocked => exact ⟨rfl, observe_onlyObserved production playback.view⟩

theorem jumpTo_failed {production : Production} {playback : Playback} {address : Address}
    {fault : Fault} (failed : (playback.jumpTo production address).result = .error fault) :
    (playback.jumpTo production address).next = playback ∧
      (playback.jumpTo production address).events = [] := by
  by_cases present : production.graph.contains address = true
  · simp [jumpTo_of_contains present] at failed
  · rw [jumpTo_of_missing present]
    exact ⟨rfl, rfl⟩

theorem choose_refused {production : Production} {playback : Playback} {index : Nat}
    (refused : ¬playback.Accepts production index) :
    (playback.choose production index).next = playback ∧
      (playback.choose production index).events = [] := by
  have chosen := choose_chosen production playback index
  unfold Accepts at refused
  generalize playback.choose production index = step at chosen refused ⊢
  cases chosen with
  | idle | outOfRange => exact ⟨rfl, rfl⟩
  | followed =>
      refine absurd ⟨?_, ?_⟩ refused
      · exact fun failed => (advance_not_refused production _ _ failed).1 rfl
      · exact fun failed => (advance_not_refused production _ _ failed).2 index rfl

theorem choose_stuck {production : Production} {playback : Playback}
    (invariant : MenuInvariant production playback) {index : Nat} {fault : Fault}
    (failed : (playback.choose production index).result = .error fault)
    (accepted : playback.Accepts production index) :
    ∃ option record observed, playback.pending[index]? = some option ∧
      production.graph.get? option.address = some record ∧ OnlyObserved observed ∧
      (playback.choose production index).events = .recorded record :: .optionsCleared :: observed ∧
      (playback.choose production index).next = playback.moveTo option.target .presenting := by
  have chosen := choose_chosen production playback index
  unfold Accepts at accepted
  generalize playback.choose production index = step at chosen failed accepted ⊢
  cases chosen with
  | idle => exact absurd rfl accepted.1
  | outOfRange => exact absurd rfl accepted.2
  | @followed option awaiting found =>
      obtain ⟨_, _, record, present, _⟩ := (invariant.offered awaiting).2.option index option found
      -- Only the advance nested in the choice can have failed, and that left its state alone.
      rw [follow_of_record present] at failed ⊢
      have left := advance_failed failed
      exact ⟨option, record, _, found, present, left.2, rfl, left.1⟩

end Playback

/-- What fails leaves the state as it was, but for a choice, which is made before its line fails. -/
theorem failure_atomic (production : Production) (moments : List Moment) :
    let playback := production.reached moments
    (∀ fault, (playback.advance production).result = .error fault →
      (playback.advance production).next = playback ∧
      OnlyObserved (playback.advance production).events ∧
      ((playback.advance production).next.advance production).result = .error fault) ∧
    (∀ address fault, (playback.jumpTo production address).result = .error fault →
      (playback.jumpTo production address).next = playback ∧
      (playback.jumpTo production address).events = [] ∧
      ((playback.jumpTo production address).next.jumpTo production address).result =
        .error fault) ∧
    ∀ index fault, (playback.choose production index).result = .error fault →
      (fault = .noPendingChoice ∨ fault = .choiceOutOfRange index →
        (playback.choose production index).next = playback ∧
        (playback.choose production index).events = []) ∧
      (fault ≠ .noPendingChoice → fault ≠ .choiceOutOfRange index →
        ∃ option record observed, playback.pending[index]? = some option ∧
          production.graph.get? option.address = some record ∧
          OnlyObserved observed ∧
          (playback.choose production index).events =
            .recorded record :: .optionsCleared :: observed ∧
          (playback.choose production index).next = {
            view := { playback.view with cursor := option.target }
            phase := .presenting
            pending := []
            reveal := playback.reveal }) := by
  intro playback
  have invariant : MenuInvariant production playback :=
    (MenuInvariant.kept production).reached moments
  refine ⟨?_, ?_, ?_⟩
  · intro fault failed
    obtain ⟨same, observed⟩ := Playback.advance_failed failed
    exact ⟨same, observed, by rw [same, failed]⟩
  · intro address fault failed
    obtain ⟨same, silent⟩ := Playback.jumpTo_failed failed
    exact ⟨same, silent, by rw [same, failed]⟩
  · intro index fault failed
    constructor
    · intro refused
      apply Playback.choose_refused
      rintro ⟨pending, inRange⟩
      rw [failed] at pending inRange
      rcases refused with rfl | rfl
      · exact pending rfl
      · exact inRange rfl
    · intro pending inRange
      apply Playback.choose_stuck invariant failed
      rw [Playback.Accepts, failed]
      constructor
      · exact fun same => pending (Except.error.inj same)
      · exact fun same => inRange (Except.error.inj same)

theorem failure_atCrossroads :
    let offering := crossroads.reached [.host .advance, .host .advance]
    let stuck := crossroads.reached [.host .advance, .host .advance, .host (.choose 1)]
    (stuck.advance crossroads).result = .error (.addressMissing 9) ∧
    (stuck.advance crossroads).next = stuck ∧
    (stuck.jumpTo crossroads 7).result = .error (.addressMissing 7) ∧
    (stuck.jumpTo crossroads 7).next = stuck ∧
    (offering.choose crossroads 2).result = .error (.choiceOutOfRange 2) ∧
    (offering.choose crossroads 2).next = offering ∧
    (offering.choose crossroads 1).result = .error (.addressMissing 9) ∧
    (offering.choose crossroads 1).next.view.body = offering.view.body := by
  intro offering stuck
  have advanceFails : (stuck.advance crossroads).result = .error (.addressMissing 9) := rfl
  have jumpFails : (stuck.jumpTo crossroads 7).result = .error (.addressMissing 7) := rfl
  have refused : (offering.choose crossroads 2).result = .error (.choiceOutOfRange 2) := rfl
  have leadsNowhere : (offering.choose crossroads 1).result = .error (.addressMissing 9) := rfl
  obtain ⟨advance, jump, _⟩ :=
    failure_atomic crossroads [.host .advance, .host .advance, .host (.choose 1)]
  obtain ⟨_, _, choose⟩ := failure_atomic crossroads [.host .advance, .host .advance]
  obtain ⟨option, _, _, _, _, _, _, left⟩ :=
    (choose 1 _ leadsNowhere).2 Fault.noConfusion Fault.noConfusion
  refine ⟨advanceFails, (advance _ advanceFails).1, jumpFails, (jump 7 _ jumpFails).1, refused, ?_,
    leadsNowhere, ?_⟩
  · exact ((choose 2 _ refused).1 (Or.inr rfl)).1
  · exact congrArg (fun playback => playback.view.body) left

end Playscript
