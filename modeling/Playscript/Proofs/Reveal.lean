import Playscript.Reveal

/-!
What becomes of a reveal while it is on the screen: the host ticks it, finishes it or waits for it,
and the worker of a threaded reveal takes its rounds. None of it changes the total, and what is
visible stays within it.
-/

namespace Playscript

/-- Not more is visible than there is, and nothing is missing at the end. -/
structure Progress.Sound (progress : Progress) : Prop where
  bounded : progress.visible ≤ progress.total
  complete : progress.finished = true → progress.visible = progress.total

namespace Progress

theorem start_sound (total : Nat) : (start total).Sound :=
  ⟨Nat.zero_le total, fun finished => Bool.noConfusion finished⟩

theorem step_sound {progress : Progress} (sound : progress.Sound) : progress.step.Sound := by
  unfold step
  split
  · exact sound
  · rename_i running
    split
    · rename_i more
      exact ⟨more, fun finished => absurd finished running⟩
    · rename_i full
      exact ⟨sound.bounded, fun _ => Nat.le_antisymm sound.bounded (Nat.not_lt.mp full)⟩

theorem finish_sound (progress : Progress) : progress.finish.Sound :=
  ⟨Nat.le_refl progress.total, fun _ => rfl⟩

theorem step_total (progress : Progress) : progress.step.total = progress.total := by
  unfold step
  split
  · rfl
  · split <;> rfl

theorem step_visible (progress : Progress) :
    progress.step.visible = progress.visible + progress.advances.toNat := by
  unfold step advances
  by_cases finished : progress.finished = true
  · simp [finished]
  · by_cases more : progress.visible < progress.total
    · simp [finished, more]
    · simp [finished, more]

end Progress

namespace Reveal

/-- One round of the worker of a threaded reveal. -/
def work (reveal : Reveal) : Reveal :=
  match reveal.mode with
  | .manual => reveal
  | .threaded =>
    if reveal.cancelled then reveal else { reveal with progress := reveal.progress.step }

inductive Turn (before : Reveal) : Reveal → Prop
  | tick : Turn before before.tick.2
  | finish : Turn before before.finishNow
  | wait : Turn before before.wait
  | work : Turn before before.work

theorem tick_progress (reveal : Reveal) :
    reveal.tick.2.progress = reveal.progress ∨
      reveal.tick.2.progress = reveal.progress.step := by
  unfold tick
  split
  · exact Or.inl rfl
  · split
    · exact Or.inl rfl
    · exact Or.inr rfl

theorem finishNow_progress (reveal : Reveal) :
    reveal.finishNow.progress = reveal.progress.finish := by
  unfold finishNow
  cases reveal.mode <;> rfl

theorem wait_progress (reveal : Reveal) :
    reveal.wait.progress = reveal.progress ∨ reveal.wait.progress = reveal.progress.finish := by
  unfold wait
  split
  · exact Or.inl rfl
  · split
    · exact Or.inl rfl
    · exact Or.inr rfl

theorem work_progress (reveal : Reveal) :
    reveal.work.progress = reveal.progress ∨ reveal.work.progress = reveal.progress.step := by
  unfold work
  split
  · exact Or.inl rfl
  · split
    · exact Or.inl rfl
    · exact Or.inr rfl

theorem Turn.progress_cases {before after : Reveal} (turn : before.Turn after) :
    after.progress = before.progress ∨ after.progress = before.progress.step ∨
      after.progress = before.progress.finish := by
  cases turn with
  | tick => exact (tick_progress before).imp_right Or.inl
  | finish => exact Or.inr (Or.inr (finishNow_progress before))
  | wait => exact (wait_progress before).imp_right Or.inr
  | work => exact (work_progress before).imp_right Or.inl

theorem Turn.total {before after : Reveal} (turn : before.Turn after) :
    after.progress.total = before.progress.total := by
  rcases turn.progress_cases with same | stepped | finished
  · rw [same]
  · rw [stepped, Progress.step_total]
  · rw [finished, Progress.finish]

theorem Turn.sound {before after : Reveal} (turn : before.Turn after)
    (sound : before.progress.Sound) : after.progress.Sound := by
  rcases turn.progress_cases with same | stepped | finished
  · rw [same]
    exact sound
  · rw [stepped]
    exact Progress.step_sound sound
  · rw [finished]
    exact Progress.finish_sound before.progress

theorem Turn.visible_le {before after : Reveal} (turn : before.Turn after)
    (sound : before.progress.Sound) : before.progress.visible ≤ after.progress.visible := by
  rcases turn.progress_cases with same | stepped | finished
  · exact Nat.le_of_eq (by rw [same])
  · rw [stepped, Progress.step_visible]
    exact Nat.le_add_right _ _
  · rw [finished]
    exact sound.bounded

theorem Turn.mode {before after : Reveal} (turn : before.Turn after) : after.mode = before.mode := by
  cases turn with
  | finish => cases mode : before.mode <;> simp [finishNow, mode, cancel]
  | tick =>
      unfold Reveal.tick
      split
      · rfl
      · split <;> rfl
  | wait =>
      unfold Reveal.wait
      split
      · rfl
      · split <;> rfl
  | work =>
      unfold Reveal.work
      split
      · rfl
      · split <;> rfl

theorem Turn.finished {before after : Reveal} (turn : before.Turn after)
    (finished : before.progress.finished = true) : after.progress.finished = true := by
  rcases turn.progress_cases with same | stepped | finishes
  · rw [same, finished]
  · rw [stepped, Progress.step, if_pos finished, finished]
  · rw [finishes, Progress.finish]

theorem tick_cancelled (reveal : Reveal) : reveal.tick.2.cancelled = reveal.cancelled := by
  unfold tick
  split
  · rfl
  · split <;> rfl

theorem wait_cancelled (reveal : Reveal) : reveal.wait.cancelled = reveal.cancelled := by
  unfold wait
  split
  · rfl
  · split <;> rfl

theorem work_cancelled (reveal : Reveal) : reveal.work.cancelled = reveal.cancelled := by
  unfold work
  split
  · rfl
  · split <;> rfl

theorem Turn.cancelled_cases {before after : Reveal} (turn : before.Turn after) :
    after.cancelled = before.cancelled ∨ after.progress.finished = true := by
  cases turn with
  | tick => exact .inl before.tick_cancelled
  | wait => exact .inl before.wait_cancelled
  | work => exact .inl before.work_cancelled
  | finish =>
      right
      rw [finishNow_progress, Progress.finish]

theorem Turn.running {before after : Reveal} (turn : before.Turn after)
    (running : after.isRunning = true) : before.isRunning = true := by
  simp only [isRunning, Bool.and_eq_true, Bool.not_eq_true'] at running ⊢
  obtain ⟨unfinished, wanted⟩ := running
  constructor
  · cases finished : before.progress.finished with
    | false => rfl
    | true => simp [turn.finished finished] at unfinished
  · rcases turn.cancelled_cases with same | finished
    · rw [← same, wanted]
    · simp [finished] at unfinished

/-- A reveal is only cancelled when everything is shown. -/
structure Whole (reveal : Reveal) : Prop where
  sound : reveal.progress.Sound
  cancelled : reveal.cancelled = true → reveal.progress.finished = true

theorem start_whole (mode : RevealMode) (total : Nat) (interval : Duration) :
    (start mode total interval).Whole :=
  ⟨Progress.start_sound total, fun cancelled => Bool.noConfusion cancelled⟩

theorem Turn.whole {before after : Reveal} (turn : before.Turn after) (whole : before.Whole) :
    after.Whole := by
  refine ⟨turn.sound whole.sound, fun cancelled => ?_⟩
  rcases turn.cancelled_cases with same | finished
  · rw [same] at cancelled
    exact turn.finished (whole.cancelled cancelled)
  · exact finished

theorem Whole.finished {reveal : Reveal} (whole : reveal.Whole)
    (still : reveal.isRunning = false) : reveal.progress.finished = true := by
  cases finished : reveal.progress.finished with
  | true => rfl
  | false =>
      have cancelled : reveal.cancelled = true := by simpa [isRunning, finished] using still
      rw [whole.cancelled cancelled] at finished
      contradiction

end Reveal
end Playscript
