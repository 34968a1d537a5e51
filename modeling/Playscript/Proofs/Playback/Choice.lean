import Playscript.Proofs.Playback.Menu

/-!
A choice against a jump. To pick an option is to jump to where it leads and to advance from there,
but for the record that is taken down first; where it leads nowhere, the jump is refused and the menu
stays, while the choice is made and the menu is gone.
-/

namespace Playscript

namespace Playback

variable {production : Production} {playback : Playback}

theorem jumpTo_of_offering (awaiting : playback.phase = .awaitingChoice)
    (offering : playback.pending ≠ []) {address : Address}
    (present : production.graph.contains address = true) :
    playback.jumpTo production address =
      ⟨.ok (), [.optionsCleared], playback.moveTo address .presenting⟩ := by
  have clears : playback.clearingEvents = [.optionsCleared] := by
    simp [clearingEvents, offering]
  rw [jumpTo_of_contains present, clears, awaiting]
  rfl

theorem run_jump_advance {option : BranchOption} {record : Record}
    (awaiting : playback.phase = .awaitingChoice) (offering : playback.pending ≠ [])
    (here : production.graph.get? option.address = some record)
    (present : production.graph.contains option.target = true) :
    let chosen := playback.follow production option
    let jumped := playback.run production [.jumpTo option.target, .advance]
    jumped.result = [.moved (.ok ()), .outcome chosen.result] ∧ jumped.next = chosen.next ∧
      chosen.events = .recorded record :: jumped.events := by
  intro chosen jumped
  simp only [chosen, jumped, run, perform, Step.map, follow_of_record here,
    jumpTo_of_offering awaiting offering present, List.append_nil, List.singleton_append, and_self]

theorem follow_of_missing {option : BranchOption} {record : Record}
    (here : production.graph.get? option.address = some record)
    (missing : ¬production.graph.contains option.target = true) (playback : Playback) :
    playback.follow production option =
      ⟨.error (.addressMissing option.target), [.recorded record, .optionsCleared],
        playback.moveTo option.target .presenting⟩ := by
  have playing : (playback.moveTo option.target .presenting).IsPlaying := .inr rfl
  have absent := Graph.get?_eq_none_of_not_contains missing
  rw [follow_of_record here, advance_of_missing playing absent]
  rfl

end Playback

/-- To choose an option is to jump to its target and to advance. Where it leads nowhere, the menu is
cleared all the same. -/
theorem choice_isJump (production : Production) (moments : List Moment) {index : Nat}
    {option : BranchOption}
    (found : (production.reached moments).pending[index]? = some option) :
    let playback := production.reached moments
    let chosen := playback.choose production index
    ∃ record, production.graph.get? option.address = some record ∧
      (production.graph.contains option.target = true →
        let jumped := playback.run production [.jumpTo option.target, .advance]
        jumped.result = [.moved (.ok ()), .outcome chosen.result] ∧ jumped.next = chosen.next ∧
          chosen.events = .recorded record :: jumped.events) ∧
      (production.graph.contains option.target = false →
        playback.jumpTo production option.target =
          ⟨.error (.addressMissing option.target), [], playback⟩ ∧
        chosen = ⟨.error (.addressMissing option.target), [.recorded record, .optionsCleared], {
          view := { playback.view with cursor := option.target }
          phase := .presenting
          pending := []
          reveal := playback.reveal }⟩) := by
  intro playback chosen
  have invariant : MenuInvariant production playback :=
    (MenuInvariant.kept production).reached moments
  have offering : playback.pending ≠ [] := List.ne_nil_of_mem (List.mem_of_getElem? found)
  have awaiting := invariant.awaiting_iff.mpr offering
  obtain ⟨_, _, record, here, _⟩ := (invariant.offered awaiting).2.option index option found
  have followed : chosen = playback.follow production option :=
    Playback.choose_of_option awaiting found
  rw [followed]
  refine ⟨record, here, Playback.run_jump_advance awaiting offering here, fun missing => ?_⟩
  have absent : ¬production.graph.contains option.target = true := by simp [missing]
  exact ⟨Playback.jumpTo_of_missing absent playback, Playback.follow_of_missing here absent playback⟩

theorem choice_atCrossroads :
    let playback := crossroads.reached [.host .advance, .host .advance]
    let left : BranchOption := ⟨0, 2, "Left", 4⟩
    let right : BranchOption := ⟨1, 3, "Right", 9⟩
    playback.pending[0]? = some left ∧ playback.pending[1]? = some right ∧
    (playback.run crossroads [.jumpTo 4, .advance]).next = (playback.choose crossroads 0).next ∧
    (playback.jumpTo crossroads 9).next = playback ∧
    (playback.choose crossroads 1).result = .error (.addressMissing 9) := by
  intro playback left right
  have first : playback.pending[0]? = some left := by decide +kernel
  have second : playback.pending[1]? = some right := by decide +kernel
  obtain ⟨_, _, follows, _⟩ := choice_isJump crossroads [.host .advance, .host .advance] first
  obtain ⟨_, _, _, strays⟩ := choice_isJump crossroads [.host .advance, .host .advance] second
  obtain ⟨_, moved, _⟩ := follows (by decide)
  obtain ⟨refused, chosen⟩ := strays (by decide)
  exact ⟨first, second, moved, congrArg Step.next refused, congrArg Step.result chosen⟩

end Playscript
