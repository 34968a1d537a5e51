import Playscript.Player.Transcript
import Playscript.Proofs.Except
import Playscript.Proofs.Player.Boundary

/-!
Driving a session by choices: it plays to a boundary, picks an option, and plays on. What a search
for a boundary did is told line by line, so that other ways to play can be compared with it.
-/

namespace Playscript

namespace Session

/-- A session shows the lines of a boundary one after the other and then stands at it. -/
inductive Plays : Session → Boundary → Session → Prop
  | line {session next final : Session} {address : Address} {kind : LineKind}
      {boundary : Boundary} : session.advance = (.ok (.line address kind), next) →
      next.skip.2.Plays boundary final →
      session.Plays (boundary.addLine (next.skip.2.shownLine address)) final
  | menu {session next : Session} {options : List BranchOption} :
      session.advance = (.ok (.choices options), next) →
      session.Plays ⟨[], .choices (options.map fun option => (option.index, option.label))⟩ next
  | ended {session next : Session} : session.advance = (.ok .ended, next) →
      session.Plays ⟨[], .ended⟩ next

/-- Where a session is that stands at a boundary of this kind. -/
inductive Settled (session : Session) : BoundaryKind → Prop
  | menu : session.playback.phase = .awaitingChoice →
      Settled session (.choices (session.playback.pending.map fun option =>
        (option.index, option.label)))
  | ended : session.playback.phase = .terminated → Settled session .ended

def Sound (session : Session) : Prop :=
  MenuInvariant session.production session.playback

variable {session reached final : Session} {boundary : Boundary} {index : Nat}

theorem settleResult_line {rest : Runner} {next : Session} {address : Address} {kind : LineKind}
    (went : settleResult rest (.ok (.line address kind), next) = (.ok boundary, final)) :
    ∃ later, rest next.skip.2 = (.ok later, final) ∧
      boundary = later.addLine (next.skip.2.shownLine address) := by
  obtain ⟨result, ending⟩ := Prod.mk.inj went
  cases continued : (rest next.skip.2).1 with
  | error fault => simp [continued, Except.map] at result
  | ok later =>
      have shown : later.addLine (next.skip.2.shownLine address) = boundary := by
        simpa [continued, Except.map] using result
      exact ⟨later, Prod.ext continued ending, shown.symm⟩

theorem runFor_plays {steps : Nat} (ran : session.runFor steps = (.ok boundary, final)) :
    session.Plays boundary final := by
  -- A run that was given up gave a fault, so the steps that are left never run out here.
  induction steps generalizing session boundary with
  | zero => simp [runFor] at ran
  | succ steps ih =>
      rw [runFor] at ran
      cases advanced : session.advance with
      | mk result next =>
          rw [advanced] at ran
          cases result with
          | error fault => simp [settleResult] at ran
          | ok outcome =>
              cases outcome with
              | line address kind =>
                  obtain ⟨later, continued, rfl⟩ := settleResult_line ran
                  exact .line advanced (ih continued)
              | choices options =>
                  cases ran
                  exact .menu advanced
              | ended =>
                  cases ran
                  exact .ended advanced

theorem runToBoundary_plays (ran : session.runToBoundary = (.ok boundary, reached)) :
    session.Plays boundary reached :=
  runFor_plays ran

theorem advance_menu {options : List BranchOption} {next : Session}
    (advanced : session.advance = (.ok (.choices options), next)) :
    next.playback.phase = .awaitingChoice ∧ next.playback.pending = options := by
  obtain ⟨result, rfl⟩ := Prod.mk.inj advanced
  have cases := Playback.advance_advanced session.production session.playback
  simp only [after]
  generalize session.playback.advance session.production = step at cases result ⊢
  cases cases with
  | finished | astray | blocked | shown | ended => simp at result
  | waiting phase =>
      simp only [Except.ok.injEq, Outcome.choices.injEq] at result
      exact ⟨phase, result⟩
  | offered =>
      simp only [Except.ok.injEq, Outcome.choices.injEq] at result
      exact ⟨rfl, result⟩

theorem advance_end {next : Session} (advanced : session.advance = (.ok .ended, next)) :
    next.playback.phase = .terminated := by
  obtain ⟨result, rfl⟩ := Prod.mk.inj advanced
  have cases := Playback.advance_advanced session.production session.playback
  simp only [after]
  generalize session.playback.advance session.production = step at cases result ⊢
  cases cases with
  | waiting | astray | blocked | shown | offered => simp at result
  | finished phase => exact phase
  | ended => rfl

theorem Plays.settled (plays : session.Plays boundary final) : final.Settled boundary.kind := by
  induction plays with
  | line _ _ ih => exact ih
  | menu advanced =>
      obtain ⟨awaiting, rfl⟩ := advance_menu advanced
      exact .menu awaiting
  | ended advanced => exact .ended (advance_end advanced)

theorem Sound.advance {outcome : Except Fault Outcome} {next : Session} (sound : session.Sound)
    (advanced : session.advance = (outcome, next)) : next.Sound := by
  obtain ⟨_, rfl⟩ := Prod.mk.inj advanced
  exact MenuInvariant.advance sound

theorem Sound.skip (sound : session.Sound) : session.skip.2.Sound :=
  (MenuInvariant.kept session.production).turned sound session.playback.skip_turned

theorem Sound.pick (session : Session) (option : BranchOption) : (session.pick option).Sound :=
  .of_pending_nil (by simp [Session.pick, Playback.moveTo]) rfl

theorem Plays.sound (plays : session.Plays boundary final) (sound : session.Sound) :
    final.Sound := by
  induction plays with
  | line advanced _ ih => exact ih (sound.advance advanced).skip
  | menu advanced => exact sound.advance advanced
  | ended advanced => exact sound.advance advanced

theorem Sound.index_lt {option : BranchOption} (sound : session.Sound)
    (awaiting : session.playback.phase = .awaitingChoice)
    (found : session.playback.pending[index]? = some option) : index < UInt64.size := by
  obtain ⟨_, place, _⟩ := (sound.offered awaiting).2.option index option found
  have least := Int32.le_toInt session.playback.view.cursor
  have most := Int32.toInt_lt option.address
  have size : UInt64.size = 18446744073709551616 := rfl
  omega

theorem offered_of_choose {outcome : Outcome} (chosen : (session.choose index).1 = .ok outcome) :
    ∃ option, session.playback.phase = .awaitingChoice ∧
      session.playback.pending[index]? = some option := by
  have cases := Playback.choose_chosen session.production session.playback index
  rw [choose] at chosen
  generalize session.playback.choose session.production index = step at cases chosen
  cases cases with
  | idle | outOfRange => simp at chosen
  | followed awaiting found => exact ⟨_, awaiting, found⟩

theorem chooseToBoundary_plays
    (chosen : session.chooseToBoundary index = (.ok boundary, reached)) :
    ∃ option, session.playback.phase = .awaitingChoice ∧
      session.playback.pending[index]? = some option ∧
      (session.pick option).Plays boundary reached := by
  have offered : ∃ option, session.playback.phase = .awaitingChoice ∧
      session.playback.pending[index]? = some option := by
    cases step : session.choose index with
    | mk result next =>
        cases result with
        | error fault => simp [chooseToBoundary, step, settleResult] at chosen
        | ok outcome => exact offered_of_choose (congrArg Prod.fst step)
  obtain ⟨option, awaiting, found⟩ := offered
  rw [chooseToBoundary_eq awaiting found] at chosen
  exact ⟨option, awaiting, found, runToBoundary_plays chosen⟩

/-- The options of these indices are picked one after the other, and each leads to a boundary. -/
inductive Picks : Session → List (Nat × Boundary) → Session → Prop
  | stay (session : Session) : Picks session [] session
  | pick {session reached final : Session} {index : Nat} {boundary : Boundary}
      {rest : List (Nat × Boundary)} :
      session.chooseToBoundary index = (.ok boundary, reached) → reached.Picks rest final →
      session.Picks ((index, boundary) :: rest) final

end Session

/-- What is told of a boundary and those that these choices lead to from it. -/
def Transcript.ofLegs (boundary : Boundary) : List (Nat × Boundary) → Transcript
  | [] => ⟨boundary.lines.map .line, boundary.kind⟩
  | (index, next) :: rest =>
    let later := ofLegs next rest
    { later with
      entries := boundary.lines.map .line ++
        .chose index ((boundary.options.lookup index).getD "") :: later.entries }

namespace Session

variable {session reached final : Session} {boundary : Boundary} {legs : List (Nat × Boundary)}

theorem Picks.pickAll (picks : reached.Picks legs final) (settled : reached.Settled boundary.kind) :
    reached.pickAll boundary (legs.map Prod.fst) = .ok (Transcript.ofLegs boundary legs) := by
  induction picks generalizing boundary with
  | stay => rfl
  | @pick session reached final index next rest chosen _ ih =>
      obtain ⟨option, awaiting, found, plays⟩ := chooseToBoundary_plays chosen
      have later := ih plays.settled
      obtain ⟨lines, kind⟩ := boundary
      cases settled with
      | ended terminated => simp [awaiting] at terminated
      | menu _ =>
          simp only [List.map_cons, Session.pickAll, chosen, later]
          rfl

theorem Picks.transcript (ran : session.runToBoundary = (.ok boundary, reached))
    (picks : reached.Picks legs final) :
    session.transcript (legs.map Prod.fst) = .ok (Transcript.ofLegs boundary legs) := by
  rw [Session.transcript, ran]
  exact picks.pickAll (runToBoundary_plays ran).settled

theorem pickAll_cons {index : Nat} {choices : List Nat} {transcript : Transcript}
    (told : reached.pickAll boundary (index :: choices) = .ok transcript) :
    ∃ next after later, reached.chooseToBoundary index = (.ok next, after) ∧
      after.pickAll next choices = .ok later ∧ transcript = ⟨boundary.lines.map .line ++
        .chose index ((boundary.options.lookup index).getD "") :: later.entries, later.kind⟩ := by
  obtain ⟨lines, kind⟩ := boundary
  cases kind with
  | ended => simp [pickAll] at told
  | choices options =>
      cases chosen : reached.chooseToBoundary index with
      | mk result after =>
          cases result with
          | error fault => simp [pickAll, chosen] at told
          | ok next =>
              simp only [pickAll, chosen, bind_eq_ok_iff, pure_eq_ok_iff] at told
              obtain ⟨later, toldLater, rfl⟩ := told
              exact ⟨next, after, later, rfl, toldLater, rfl⟩

theorem picks_of_pickAll {choices : List Nat} {transcript : Transcript}
    (told : reached.pickAll boundary choices = .ok transcript) :
    ∃ legs final, reached.Picks legs final ∧ legs.map Prod.fst = choices ∧
      transcript = .ofLegs boundary legs := by
  induction choices generalizing reached boundary transcript with
  | nil =>
      obtain rfl := Except.ok.inj told
      exact ⟨[], reached, .stay reached, rfl, rfl⟩
  | cons index rest ih =>
      obtain ⟨next, after, later, chosen, toldLater, rfl⟩ := pickAll_cons told
      obtain ⟨legs, final, picks, rfl, rfl⟩ := ih toldLater
      exact ⟨(index, next) :: legs, final, .pick chosen picks, rfl, rfl⟩

theorem picks_of_transcript {choices : List Nat} {transcript : Transcript}
    (told : session.transcript choices = .ok transcript) :
    ∃ boundary reached legs final, session.runToBoundary = (.ok boundary, reached) ∧
      reached.Picks legs final ∧ legs.map Prod.fst = choices ∧
      transcript = .ofLegs boundary legs := by
  cases ran : session.runToBoundary with
  | mk result reached =>
      rw [Session.transcript, ran] at told
      cases result with
      | error fault => cases told
      | ok boundary =>
          obtain ⟨legs, final, whole⟩ := picks_of_pickAll told
          exact ⟨boundary, reached, legs, final, rfl, whole⟩

theorem Picks.menus (picks : reached.Picks legs final) (settled : reached.Settled boundary.kind) :
    ∀ before ∈ (boundary :: legs.map Prod.snd).dropLast, before.kind ≠ .ended := by
  induction picks generalizing boundary with
  | stay => simp
  | @pick session reached final index next rest chosen _ ih =>
      obtain ⟨option, awaiting, found, plays⟩ := chooseToBoundary_plays chosen
      rw [List.map_cons, List.dropLast_cons_cons, List.forall_mem_cons]
      refine ⟨?_, ih plays.settled⟩
      intro ended
      rw [ended] at settled
      cases settled with
      | ended terminated => simp [awaiting] at terminated

end Session
end Playscript
