import Playscript.Proofs.Playback.Menu

/-!
When a line is at rest: none of it is still to be revealed. The reveal of a line is kept by all but
the next line, so a menu that follows a line at rest finds it at rest.
-/

namespace Playscript

namespace Playback

def Whole (playback : Playback) : Prop :=
  ∀ reveal, playback.reveal = some reveal → reveal.Whole

def AtRest (playback : Playback) : Prop :=
  ∀ reveal, playback.reveal = some reveal → reveal.progress.finished = true

/-- No menu is pending before the line is at rest. -/
def Rested (playback : Playback) : Prop :=
  playback.phase = .awaitingChoice → playback.AtRest

theorem whole_kept (production : Production) : Kept production Whole where
  opening _ revealed := nomatch revealed
  advance playback whole := by
    have advanced := advance_advanced production playback
    generalize playback.advance production = step at advanced ⊢
    cases advanced with
    | finished | waiting | astray | blocked | offered | ended => exact whole
    | shown =>
        intro reveal revealed
        obtain rfl := Option.some.inj revealed
        exact Reveal.start_whole _ _ _
  follow _ _ whole _ _ := whole
  jump _ _ _ whole _ _ := whole
  reveal _ before _ whole revealed turn := by
    intro reveal turned
    obtain rfl := Option.some.inj turned
    exact turn.whole (whole before revealed)

variable {production : Production} {playback next : Playback}

theorem atRest_of_still (whole : playback.Whole) (still : playback.isRevealing = false) :
    playback.AtRest := by
  intro reveal revealed
  apply (whole reveal revealed).finished
  simpa [isRevealing, revealed] using still

theorem AtRest.still (rest : playback.AtRest) : playback.isRevealing = false := by
  cases revealed : playback.reveal with
  | none => simp [isRevealing, revealed]
  | some reveal => simp [isRevealing, revealed, Reveal.isRunning, rest reveal revealed]

theorem AtRest.visibleText (rest : playback.AtRest) (whole : playback.Whole) :
    playback.visibleText production = playback.view.body := by
  cases revealed : playback.reveal with
  | none => simp [Playback.visibleText, revealed]
  | some reveal =>
      have full := (whole reveal revealed).sound.complete (rest reveal revealed)
      simp [Playback.visibleText, revealed, full]

theorem AtRest.turned (rest : playback.AtRest)
    (turned : playback.Turned next) : next.AtRest := by
  rcases turned with rfl | ⟨before, after, revealed, turn, rfl⟩
  · exact rest
  · intro reveal turned
    obtain rfl := Option.some.inj turned
    exact turn.finished (rest before revealed)

theorem Rested.turned (rested : playback.Rested) (turned : playback.Turned next) :
    next.Rested := by
  intro awaiting
  rw [turned.phase] at awaiting
  exact (rested awaiting).turned turned

theorem Turned.revealing (turned : playback.Turned next) (running : next.isRevealing = true) :
    playback.isRevealing = true := by
  rcases turned with rfl | ⟨before, after, revealed, turn, rfl⟩
  · exact running
  · simp only [isRevealing, revealed, Option.any_some] at running ⊢
    exact turn.running running

theorem AtRest.advance (rest : playback.AtRest) : (playback.advance production).next.Rested := by
  have advanced := advance_advanced production playback
  generalize playback.advance production = step at advanced ⊢
  intro awaiting
  cases advanced with
  | finished | waiting | astray | blocked | offered | ended => exact rest
  | shown => simp [present] at awaiting

theorem AtRest.choose (rest : playback.AtRest) (index : Nat) :
    (playback.choose production index).next.Rested := by
  have chosen := choose_chosen production playback index
  generalize playback.choose production index = step at chosen ⊢
  cases chosen with
  | idle | outOfRange => exact fun _ => rest
  | @followed option =>
      have moved : (playback.moveTo option.target .presenting).AtRest := rest
      exact moved.advance

end Playback
end Playscript
