import Playscript.Proofs.Playback.Course
import Playscript.Proofs.Playback.Navigation

/-!
A session in another mode of reveal. How lines are revealed leaves no trace: what a session
answers, shows and takes down is the same in every mode.
-/

namespace Playscript

def Production.inMode (production : Production) (mode : RevealMode) : Production :=
  { production with mode := mode }

def Playback.withReveal (playback : Playback) (reveal : Option Reveal) : Playback :=
  { playback with reveal := reveal }

theorem Production.inMode_sameStory (production : Production) (mode : RevealMode) :
    (production.inMode mode).SameStory production :=
  ⟨rfl, rfl, rfl⟩

/-- A step that differs from another in the reveal that it leaves and in nothing else. -/
def Step.Restaged {α : Type} (step other : Step α) : Prop :=
  ∃ reveal, other = { step with next := step.next.withReveal reveal }

namespace Playback

variable (production : Production) (playback : Playback) (mode : RevealMode)
  (reveal : Option Reveal)

theorem dispatch_restaged (record : Record) (kind : LineKind) :
    (playback.dispatch production record kind).Restaged
      ((playback.withReveal reveal).dispatch (production.inMode mode) record kind) := by
  have branches := (production.inMode_sameStory mode).branches record.address
  cases kind with
  | speech =>
      simp only [dispatch]
      cases Production.requireJump record with
      | error fault => exact ⟨reveal, rfl⟩
      | ok target => exact ⟨_, rfl⟩
  | narration =>
      simp only [dispatch]
      cases Production.requireJump record with
      | error fault => exact ⟨reveal, rfl⟩
      | ok target => exact ⟨_, rfl⟩
  | branch =>
      simp only [dispatch, branches]
      cases Production.branchOptions 0 (production.branches record.address) with
      | error fault => exact ⟨reveal, rfl⟩
      | ok options => exact ⟨reveal, rfl⟩
  | terminate => exact ⟨reveal, rfl⟩

theorem playCursor_restaged :
    (playback.playCursor production).Restaged
      ((playback.withReveal reveal).playCursor (production.inMode mode)) := by
  have graph : (production.inMode mode).graph = production.graph := rfl
  have cursor : (playback.withReveal reveal).view.cursor = playback.view.cursor := rfl
  simp only [playCursor, graph, cursor]
  cases production.graph.get? playback.view.cursor with
  | none => exact ⟨reveal, rfl⟩
  | some record =>
      simp only [(production.inMode_sameStory mode).kindOf?]
      cases production.kindOf? record with
      | none => exact ⟨reveal, rfl⟩
      | some kind =>
          obtain ⟨later, same⟩ := dispatch_restaged production playback mode reveal record kind
          refine ⟨later, ?_⟩
          simp only [same]
          rfl

theorem advance_restaged :
    (playback.advance production).Restaged
      ((playback.withReveal reveal).advance (production.inMode mode)) := by
  have phase : (playback.withReveal reveal).phase = playback.phase := rfl
  simp only [advance, phase]
  cases playback.phase with
  | terminated => exact ⟨reveal, rfl⟩
  | awaitingChoice => exact ⟨reveal, rfl⟩
  | ready => exact playCursor_restaged production playback mode reveal
  | presenting => exact playCursor_restaged production playback mode reveal

end Playback

namespace Session

/-- The session in another mode, with this reveal of the line on the screen. -/
def staged (session : Session) (mode : RevealMode) (reveal : Option Reveal) : Session :=
  ⟨session.production.inMode mode, session.playback.withReveal reveal, session.history⟩

variable {session next : Session}

theorem advance_staged {outcome : Except Fault Outcome}
    (advanced : session.advance = (outcome, next)) (mode : RevealMode) (reveal : Option Reveal) :
    ∃ later, (session.staged mode reveal).advance = (outcome, next.staged mode later) := by
  obtain ⟨rfl, rfl⟩ := Prod.mk.inj advanced
  obtain ⟨later, same⟩ := session.playback.advance_restaged session.production mode reveal
  refine ⟨later, ?_⟩
  simp only [advance, staged, after, same]

theorem skip_staged (session : Session) (mode : RevealMode) (reveal : Option Reveal) :
    ∃ later, (session.staged mode reveal).skip.2 = session.skip.2.staged mode later := by
  have turned (playback : Playback) : ∃ later, playback.skip.2 = playback.withReveal later := by
    rcases playback.skip_turned with same | ⟨_, after, _, _, turned⟩
    · exact ⟨playback.reveal, same⟩
    · exact ⟨some after, turned⟩
  obtain ⟨plain, skipped⟩ := turned session.playback
  obtain ⟨later, skippedLater⟩ := turned (session.playback.withReveal reveal)
  refine ⟨later, ?_⟩
  simp only [skip, staged, skipped, skippedLater]
  rfl

theorem openSource_eq_ok_iff (mode : RevealMode) (source : Source) (session : Session) :
    openSource mode source = .ok session ↔ ∃ production,
      Production.ofText source.text ⟨source.config, source.cast, source.entry, mode, none,
        Units.chars, []⟩ = .ok production ∧
      ⟨production, production.opening, .empty⟩ = session := by
  simp only [openSource, bind_eq_ok_iff, pure_eq_ok_iff]

theorem openSource_staged {mode : RevealMode} {source : Source}
    (opened : openSource mode source = .ok session) (other : RevealMode) :
    openSource other source = .ok (session.staged other none) := by
  simp only [openSource_eq_ok_iff, Production.ofText_eq_ok_iff] at opened ⊢
  obtain ⟨production, ⟨report, loaded, prepared⟩, rfl⟩ := opened
  obtain ⟨sound, first, lowest, present, rfl⟩ := (Production.prepare_eq_ok_iff _ _ _).mp prepared
  refine ⟨_, ⟨report, loaded, (Production.prepare_eq_ok_iff _ _ _).mpr
    ⟨sound, first, lowest, present, rfl⟩⟩, rfl⟩

end Session
end Playscript
