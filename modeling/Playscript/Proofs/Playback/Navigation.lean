import Playscript.Proofs.Playback.Run

/-!
Navigation apart from presentation. What a move answers and where it leads depend on the records,
the tags and the entry alone: the relation `Production.SameStory` between two productions lets
everything else differ, and each move keeps two performances of one story together.
-/

namespace Playscript

structure Standing where
  phase : Phase
  cursor : Address
  shown : Option Address
  pending : List BranchOption
  deriving DecidableEq, Repr

def Playback.standing (playback : Playback) : Standing :=
  ⟨playback.phase, playback.view.cursor, playback.view.shown, playback.pending⟩

inductive Move where
  | advance
  | choose (index : Nat)
  | jumpTo (address : Address)
  | restart
  deriving DecidableEq, Repr

def Move.operation : Move → Operation
  | advance => .advance
  | choose index => .choose index
  | jumpTo address => .jumpTo address
  | restart => .restart

inductive Aside where
  | tick
  | skip
  | wait
  | work
  | readVisibleText
  -- What the cast decides is replaced, as a cast that changes in the meantime may have it.
  | repaint (label : String) (portrait : Option Portrait) (avatar : Bool)
  deriving DecidableEq, Repr

def Playback.attend (production : Production) (playback : Playback) :
    Aside → Option String × Playback
  | .tick => (none, playback.tick.2)
  | .skip => (none, playback.skip.2)
  | .wait => (none, playback.wait)
  | .work => (none, playback.work)
  | .readVisibleText => (some (playback.visibleText production), playback)
  | .repaint label portrait avatar =>
    (none, { playback with
      view := { playback.view with label := label, portrait := portrait, avatar := avatar } })

inductive Call where
  | move (move : Move)
  | aside (aside : Aside)
  deriving DecidableEq, Repr

def Call.move? : Call → Option Move
  | .move asked => some asked
  | .aside _ => none

namespace Playback

def journal (production : Production) (playback : Playback) :
    List Call → List (Reply × Standing) × Playback
  | [] => ([], playback)
  | .aside aside :: rest => (playback.attend production aside).2.journal production rest
  | .move move :: rest =>
    let step := playback.perform production move.operation
    let (later, final) := step.next.journal production rest
    ((step.result, step.next.standing) :: later, final)

end Playback

namespace Production

structure SameStory (first second : Production) : Prop where
  graph : first.graph = second.graph
  tags : first.config.tags = second.config.tags
  entry : first.entry = second.entry

namespace SameStory

variable {first second : Production}

theorem refl (production : Production) : production.SameStory production :=
  ⟨rfl, rfl, rfl⟩

theorem kindOf? (same : first.SameStory second) (record : Record) :
    first.kindOf? record = second.kindOf? record := by
  rw [Production.kindOf?, Production.kindOf?, Config.kindOf?, Config.kindOf?, same.tags]

theorem isBranch (same : first.SameStory second) (record : Record) :
    first.isBranch record = second.isBranch record := by
  rw [Production.isBranch, Production.isBranch, same.kindOf?]

theorem branchRun (same : first.SameStory second) (address : Address) (records : List Record) :
    first.branchRun address records = second.branchRun address records := by
  induction records generalizing address with
  | nil => rfl
  | cons record rest ih => simp [Production.branchRun, same.isBranch, ih]

theorem branches (same : first.SameStory second) (address : Address) :
    first.branches address = second.branches address := by
  rw [Production.branches, Production.branches, same.graph, same.branchRun]

end SameStory
end Production

structure Step.Agrees {α : Type} (first second : Step α) : Prop where
  result : first.result = second.result
  standing : first.next.standing = second.next.standing

namespace Playback

theorem showSpeech_standing (production : Production) (playback : Playback) (record : Record)
    (target : Address) :
    (playback.present production (production.showSpeech record target)).standing =
      ⟨.presenting, target, some record.address, playback.pending⟩ := by
  have shows : production.Shows record target .speech (production.showSpeech record target) :=
    .spoken
  simp [standing, present, shows.cursor, shows.shown]

theorem Turned.standing {playback next : Playback} (turned : playback.Turned next) :
    next.standing = playback.standing := by
  rw [Playback.standing, Playback.standing, turned.phase, turned.view, turned.pending]

theorem attend_standing (production : Production) (playback : Playback) (aside : Aside) :
    (playback.attend production aside).2.standing = playback.standing := by
  cases aside with
  | tick => exact playback.tick_turned.standing
  | skip => exact playback.skip_turned.standing
  | wait => exact playback.wait_turned.standing
  | work => exact playback.work_turned.standing
  | readVisibleText => rfl
  | repaint => rfl

section Moves

variable {first second : Production} {one other : Playback}

theorem phase_agrees (together : one.standing = other.standing) : one.phase = other.phase :=
  congrArg Standing.phase together

theorem cursor_agrees (together : one.standing = other.standing) :
    one.view.cursor = other.view.cursor :=
  congrArg Standing.cursor together

theorem shown_agrees (together : one.standing = other.standing) :
    one.view.shown = other.view.shown :=
  congrArg Standing.shown together

theorem pending_agrees (together : one.standing = other.standing) :
    one.pending = other.pending :=
  congrArg Standing.pending together

theorem failedStep_agrees (together : one.standing = other.standing) (fault : Fault) :
    (one.failedStep fault : Step (Except Fault Outcome)).Agrees (other.failedStep fault) :=
  ⟨rfl, together⟩

theorem dispatch_agrees (same : first.SameStory second) (together : one.standing = other.standing)
    (record : Record) (kind : LineKind) :
    (one.dispatch first record kind).Agrees (other.dispatch second record kind) := by
  have cursor := cursor_agrees together
  have shown := shown_agrees together
  have pending := pending_agrees together
  cases kind with
  | speech =>
      cases jump : Production.requireJump record with
      | error fault =>
          simp only [dispatch, jump]
          exact failedStep_agrees together fault
      | ok target =>
          simp only [dispatch, jump, shownStep]
          exact ⟨by simp [cursor], by simp [showSpeech_standing, pending]⟩
  | narration =>
      cases jump : Production.requireJump record with
      | error fault =>
          simp only [dispatch, jump]
          exact failedStep_agrees together fault
      | ok target =>
          simp only [dispatch, jump, shownStep]
          refine ⟨by simp [cursor], ?_⟩
          simp [standing, present, Production.showNarration, Production.showLine, pending]
  | branch =>
      simp only [dispatch, same.branches]
      cases Production.branchOptions 0 (second.branches record.address) with
      | error fault => exact failedStep_agrees together fault
      | ok options => exact ⟨rfl, by simp [standing, cursor, shown]⟩
  | terminate => exact ⟨rfl, by simp [dispatch, standing, cursor, shown, pending]⟩

theorem playCursor_agrees (same : first.SameStory second)
    (together : one.standing = other.standing) :
    (one.playCursor first).Agrees (other.playCursor second) := by
  simp only [playCursor, cursor_agrees together, same.graph]
  cases second.graph.get? other.view.cursor with
  | none => exact failedStep_agrees together _
  | some record =>
      simp only [same.kindOf?]
      cases second.kindOf? record with
      | none => exact ⟨rfl, together⟩
      | some kind =>
          have agrees := dispatch_agrees same together record kind
          exact ⟨agrees.result, agrees.standing⟩

theorem advance_agrees (same : first.SameStory second)
    (together : one.standing = other.standing) :
    (one.advance first).Agrees (other.advance second) := by
  simp only [advance, phase_agrees together]
  cases other.phase with
  | terminated => exact ⟨rfl, together⟩
  | awaitingChoice => exact ⟨by simp [pending_agrees together], together⟩
  | ready => exact playCursor_agrees same together
  | presenting => exact playCursor_agrees same together

theorem moveTo_agrees (together : one.standing = other.standing) (address : Address)
    (phase : Phase) : (one.moveTo address phase).standing = (other.moveTo address phase).standing := by
  simp [standing, moveTo, shown_agrees together]

theorem choose_agrees (same : first.SameStory second) (together : one.standing = other.standing)
    (index : Nat) : (one.choose first index).Agrees (other.choose second index) := by
  simp only [choose, phase_agrees together, pending_agrees together]
  split
  · exact failedStep_agrees together _
  · cases other.pending[index]? with
    | none => exact failedStep_agrees together _
    | some option =>
        have agrees := advance_agrees same (moveTo_agrees together option.target .presenting)
        exact ⟨agrees.result, agrees.standing⟩

theorem jumpTo_agrees (same : first.SameStory second) (together : one.standing = other.standing)
    (address : Address) : (one.jumpTo first address).Agrees (other.jumpTo second address) := by
  simp only [jumpTo, same.graph, phase_agrees together]
  split
  · exact ⟨rfl, moveTo_agrees together address _⟩
  · exact ⟨rfl, together⟩

theorem opening_agrees (same : first.SameStory second) :
    first.opening.standing = second.opening.standing := by
  simp [standing, Production.opening, same.entry]

theorem perform_agrees (same : first.SameStory second) (together : one.standing = other.standing)
    (move : Move) :
    (one.perform first move.operation).Agrees (other.perform second move.operation) := by
  cases move with
  | advance =>
      have agrees := advance_agrees same together
      exact ⟨congrArg Reply.outcome agrees.result, agrees.standing⟩
  | choose index =>
      have agrees := choose_agrees same together index
      exact ⟨congrArg Reply.outcome agrees.result, agrees.standing⟩
  | jumpTo address =>
      have agrees := jumpTo_agrees same together address
      exact ⟨congrArg Reply.moved agrees.result, agrees.standing⟩
  | restart => exact ⟨rfl, opening_agrees same⟩

/-- The run lemma. Any performance of the story may stand for the second, so two runs are compared
through their bare moves. -/
theorem journal_agrees (same : first.SameStory second) (together : one.standing = other.standing)
    (calls : List Call) :
    let left := one.journal first calls
    let right := other.journal second ((calls.filterMap Call.move?).map Call.move)
    left.1 = right.1 ∧ left.2.standing = right.2.standing := by
  induction calls generalizing one other with
  | nil => exact ⟨rfl, together⟩
  | cons call rest ih =>
      cases call with
      | aside aside => exact ih ((attend_standing first one aside).trans together)
      | move move =>
          have agrees := perform_agrees same together move
          obtain ⟨later, final⟩ := ih agrees.standing
          simp only [journal, Call.move?, List.filterMap_cons, List.map_cons]
          exact ⟨by rw [agrees.result, agrees.standing, later], final⟩

end Moves
end Playback

/-- Two performances of one script that are asked for the same moves answer alike and stand at the
same place, whatever they show. -/
theorem navigation_ignoresPresentation {first second : Production}
    (same : first.SameStory second) {firstCalls secondCalls : List Call}
    (sameMoves : firstCalls.filterMap Call.move? = secondCalls.filterMap Call.move?) :
    let left := first.opening.journal first firstCalls
    let right := second.opening.journal second secondCalls
    left.1 = right.1 ∧ left.2.standing = right.2.standing := by
  have left := Playback.journal_agrees same (Playback.opening_agrees same) firstCalls
  have right := Playback.journal_agrees (.refl second) (Eq.refl second.opening.standing) secondCalls
  rw [sameMoves] at left
  exact ⟨left.1.trans right.1.symm, left.2.trans right.2.symm⟩

def rehearsal : Production :=
  { crossroads with
    config := {
      columns := { address := 1, tag := 0 }
      labelOpen := ""
      labelClose := ":"
      bodyIndent := ""
      emptyField := "-" }
    cast := .nobody
    mode := .threaded
    interval := .zero
    units := Units.pairs
    observers := [fun _ => .ok (), fun _ => .error Fault.noSelection.notice] }

theorem navigation_atCrossroads :
    let shown : List Call :=
      [.move .advance, .aside .tick, .aside .readVisibleText, .move .advance, .move (.choose 1)]
    let rehearsed : List Call :=
      [.aside .skip, .move .advance, .aside .work, .move .advance, .aside .wait,
        .move (.choose 1), .aside .tick]
    let left := crossroads.opening.journal crossroads shown
    let right := rehearsal.opening.journal rehearsal rehearsed
    crossroads.SameStory rehearsal ∧
    shown.filterMap Call.move? = rehearsed.filterMap Call.move? ∧
    left.1 = right.1 ∧ left.1.length = 3 ∧ left.2.standing = right.2.standing ∧
    left.2.view.label = "【Aoi】" ∧ right.2.view.label = "Aoi:" := by
  intro shown rehearsed left right
  have same : crossroads.SameStory rehearsal := ⟨rfl, rfl, rfl⟩
  have sameMoves : shown.filterMap Call.move? = rehearsed.filterMap Call.move? := rfl
  obtain ⟨journals, standings⟩ := navigation_ignoresPresentation same sameMoves
  exact ⟨same, sameMoves, journals, rfl, standings, by decide +kernel, by decide +kernel⟩

end Playscript
