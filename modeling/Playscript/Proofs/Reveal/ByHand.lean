import Mathlib.Data.List.Induction
import Mathlib.Data.List.TakeWhile
import Playscript.Proofs.Reveal

/-!
A reveal that is driven by hand: ticked, cancelled and finished in any order. It counts its ticks,
one unit each, until it is first cancelled or finished, and ends itself one tick after the last
unit. Nothing sets it going again once it has stopped, but to finish it shows everything all the
same.
-/

namespace Playscript.Reveal

inductive Handling where
  | tick
  | cancel
  | finish
  deriving DecidableEq, Repr

def handle (reveal : Reveal) : Handling → Reveal
  | .tick => reveal.tick.2
  | .cancel => reveal.cancel
  | .finish => reveal.finishNow

def handled (total : Nat) (interval : Duration) (handlings : List Handling) : Reveal :=
  handlings.foldl handle (start .manual total interval)

def Untouched (handlings : List Handling) : Prop :=
  .cancel ∉ handlings ∧ .finish ∉ handlings

instance (handlings : List Handling) : Decidable (Untouched handlings) :=
  inferInstanceAs (Decidable (_ ∧ _))

/-- The ticks before a reveal is first cancelled or finished. -/
def ticksCounted (handlings : List Handling) : Nat :=
  (handlings.takeWhile fun handling => handling = .tick).length

/-- The reveal that these handlings leave, told without following them one by one. -/
def tally (total : Nat) (interval : Duration) (handlings : List Handling) : Reveal where
  mode := .manual
  interval := interval
  progress := {
    visible := if .finish ∈ handlings then total else min (ticksCounted handlings) total
    total := total
    finished := decide (.finish ∈ handlings ∨ total < ticksCounted handlings) }
  cancelled := decide (.cancel ∈ handlings)

variable {total : Nat} {interval : Duration} {handlings : List Handling} {reveal : Reveal}

theorem untouched_iff : Untouched handlings ↔ ∀ handling ∈ handlings, handling = .tick := by
  constructor
  · rintro ⟨uncancelled, unfinished⟩ (_ | _ | _) listed
    · rfl
    · contradiction
    · contradiction
  · intro ticks
    exact ⟨fun listed => (nomatch ticks _ listed), fun listed => (nomatch ticks _ listed)⟩

theorem touched_iff : ¬Untouched handlings ↔ .cancel ∈ handlings ∨ .finish ∈ handlings := by
  rw [Untouched, not_and_or, not_not, not_not]

theorem ticksCounted_of_untouched (untouched : Untouched handlings) :
    ticksCounted handlings = handlings.length := by
  rw [ticksCounted, List.takeWhile_eq_self_iff.mpr]
  simpa using untouched_iff.mp untouched

theorem ticksCounted_append_of_touched (touched : ¬Untouched handlings) (later : List Handling) :
    ticksCounted (handlings ++ later) = ticksCounted handlings := by
  rw [ticksCounted, ticksCounted, List.takeWhile_append, if_neg]
  intro same
  have whole := (List.takeWhile_prefix _).eq_of_length same
  rw [List.takeWhile_eq_self_iff] at whole
  exact touched (untouched_iff.mpr (by simpa using whole))

theorem ticksCounted_concat_of_ne {handling : Handling} (other : handling ≠ .tick)
    (handlings : List Handling) :
    ticksCounted (handlings ++ [handling]) = ticksCounted handlings := by
  by_cases untouched : Untouched handlings
  · have ticks : ∀ handling ∈ handlings, decide (handling = .tick) = true := by
      simpa using untouched_iff.mp untouched
    rw [ticksCounted_of_untouched untouched, ticksCounted, List.takeWhile_append_of_pos ticks]
    simp [other]
  · exact ticksCounted_append_of_touched untouched _

theorem tick_tally_of_touched (touched : ¬Untouched handlings) :
    (tally total interval handlings).tick = (false, tally total interval handlings) := by
  by_cases cancelled : .cancel ∈ handlings
  · simp [tally, tick, cancelled]
  · have finishes : .finish ∈ handlings :=
      Decidable.not_not.mp fun unfinished => touched ⟨cancelled, unfinished⟩
    simp [tally, tick, cancelled, finishes, Progress.advances, Progress.step]

def counted (count total : Nat) : Progress :=
  ⟨min count total, total, decide (total < count)⟩

theorem counted_advances (count total : Nat) :
    (counted count total).advances = decide (count < total) := by
  have told : (counted count total).advances =
      (!decide (total < count) && decide (min count total < total)) := rfl
  rw [told, Bool.eq_iff_iff]
  simp only [Bool.and_eq_true, Bool.not_eq_true', decide_eq_false_iff_not, decide_eq_true_eq]
  omega

theorem counted_step (count total : Nat) :
    (counted count total).step = counted (count + 1) total := by
  rcases Nat.lt_trichotomy count total with more | last | ended
  · have shown : min count total = count := Nat.min_eq_left (by omega)
    have next : min (count + 1) total = count + 1 := Nat.min_eq_left more
    have running : ¬total < count := by omega
    have stillRunning : ¬total < count + 1 := by omega
    rw [counted, counted, shown, next]
    simp [Progress.step, more, running, stillRunning]
  · simp [counted, Progress.step, last]
  · have full : min count total = total := Nat.min_eq_right (by omega)
    have stillFull : min (count + 1) total = total := Nat.min_eq_right (by omega)
    have stillEnded : total < count + 1 := by omega
    simp [counted, Progress.step, full, stillFull, ended, stillEnded]

theorem tally_of_untouched (untouched : Untouched handlings) : tally total interval handlings =
    ⟨.manual, interval, counted handlings.length total, false⟩ := by
  simp [tally, counted, ticksCounted_of_untouched untouched, untouched.1, untouched.2]

theorem tick_tally_of_untouched (untouched : Untouched handlings) :
    (tally total interval handlings).tick =
      (decide (handlings.length < total), tally total interval (handlings ++ [.tick])) := by
  have stillUntouched : Untouched (handlings ++ [.tick]) := by
    simpa [Untouched] using untouched
  rw [tally_of_untouched untouched, tally_of_untouched stillUntouched, List.length_append,
    List.length_singleton, ← counted_advances, ← counted_step]
  rfl

/-- The step lemma: a tally is kept up by one handling more. -/
theorem handle_tally (handlings : List Handling) (handling : Handling) :
    (tally total interval handlings).handle handling =
      tally total interval (handlings ++ [handling]) := by
  cases handling with
  | tick =>
      rw [handle]
      by_cases untouched : Untouched handlings
      · rw [tick_tally_of_untouched untouched]
      · rw [tick_tally_of_touched untouched]
        simp [tally, ticksCounted_append_of_touched untouched]
  | cancel => simp [handle, cancel, tally, ticksCounted_concat_of_ne]
  | finish => simp [handle, finishNow, Progress.finish, tally, ticksCounted_concat_of_ne]

theorem handled_eq_tally (total : Nat) (interval : Duration) (handlings : List Handling) :
    handled total interval handlings = tally total interval handlings := by
  induction handlings using List.reverseRecOn with
  | nil => simp [handled, start, Progress.start, tally, ticksCounted]
  | append_singleton handlings handling ih =>
      rw [handled] at ih ⊢
      rw [List.foldl_append, ih, List.foldl_cons, List.foldl_nil, handle_tally]

theorem handle_visible_le (sound : reveal.progress.Sound) (handling : Handling) :
    reveal.progress.visible ≤ (reveal.handle handling).progress.visible ∧
      (reveal.handle handling).progress.Sound := by
  cases handling with
  | tick => exact ⟨Turn.tick.visible_le sound, Turn.tick.sound sound⟩
  | cancel => exact ⟨Nat.le_refl _, sound⟩
  | finish => exact ⟨Turn.finish.visible_le sound, Turn.finish.sound sound⟩

theorem foldl_handle_visible_le (sound : reveal.progress.Sound) (later : List Handling) :
    reveal.progress.visible ≤ (later.foldl handle reveal).progress.visible := by
  induction later generalizing reveal with
  | nil => exact Nat.le_refl _
  | cons handling rest ih =>
      obtain ⟨grows, stillSound⟩ := handle_visible_le sound handling
      exact Nat.le_trans grows (ih stillSound)

theorem isRunning_tally_iff : (tally total interval handlings).isRunning = true ↔
    Untouched handlings ∧ handlings.length ≤ total := by
  by_cases untouched : Untouched handlings
  · simp [isRunning, tally_of_untouched untouched, counted, untouched]
  · rcases touched_iff.mp untouched with cancelled | finished
    · simp [isRunning, tally, cancelled, untouched]
    · simp [isRunning, tally, finished, untouched]

theorem tally_sound (total : Nat) (interval : Duration) (handlings : List Handling) :
    (tally total interval handlings).progress.Sound := by
  by_cases finishes : .finish ∈ handlings
  · exact ⟨by simp [tally, finishes], fun _ => by simp [tally, finishes]⟩
  · have visible : (tally total interval handlings).progress.visible =
        min (ticksCounted handlings) total := by simp [tally, finishes]
    refine ⟨visible ▸ Nat.min_le_right _ _, fun finished => ?_⟩
    have passed : total < ticksCounted handlings := by simpa [tally, finishes] using finished
    rw [visible]
    exact Nat.min_eq_right (Nat.le_of_lt passed)

/-- As long as a reveal is only ticked the `k`-th tick shows the `k`-th unit; once stopped it never
goes on. -/
theorem byHand_countsOnce (total : Nat) (interval : Duration) (handlings later : List Handling) :
    let reveal := handled total interval handlings
    let next := handled total interval (handlings ++ later)
    reveal.progress.total = total ∧ reveal.progress.visible ≤ total ∧
    reveal.progress.visible ≤ next.progress.visible ∧
    (reveal.progress.finished = true → reveal.progress.visible = total) ∧
    (reveal.isRunning = true ↔ reveal.progress.finished = false ∧ reveal.cancelled = false) ∧
    (reveal.isRunning = false → next.isRunning = false) ∧
    (.cancel ∉ handlings → .finish ∉ handlings →
      (reveal.tick.1 = true ↔ handlings.length + 1 ≤ total) ∧
      reveal.progress.visible = min handlings.length total ∧
      (reveal.progress.finished = true ↔ total < handlings.length)) ∧
    (.cancel ∈ handlings ∨ .finish ∈ handlings → reveal.tick = (false, reveal)) ∧
    reveal.finishNow.progress.visible = total ∧ reveal.finishNow.progress.finished = true := by
  intro reveal next
  have told : reveal = tally total interval handlings := handled_eq_tally total interval handlings
  have sound : reveal.progress.Sound := told ▸ tally_sound total interval handlings
  have whole : reveal.progress.total = total := by rw [told, tally]
  have grows : reveal.progress.visible ≤ next.progress.visible := by
    have extended : next = later.foldl handle reveal := List.foldl_append ..
    rw [extended]
    exact foldl_handle_visible_le sound later
  refine ⟨whole, whole ▸ sound.bounded, grows, fun finished => whole ▸ sound.complete finished,
    by simp [isRunning], ?_, ?_, ?_, ?_, ?_⟩
  · intro stopped
    have toldNext : next = tally total interval (handlings ++ later) := handled_eq_tally ..
    rw [told, ← Bool.not_eq_true, isRunning_tally_iff] at stopped
    rw [toldNext, ← Bool.not_eq_true, isRunning_tally_iff]
    rintro ⟨⟨uncancelled, unfinished⟩, within⟩
    rw [List.mem_append, not_or] at uncancelled unfinished
    rw [List.length_append] at within
    exact stopped ⟨⟨uncancelled.1, unfinished.1⟩, by omega⟩
  · intro uncancelled unfinished
    have untouched : Untouched handlings := ⟨uncancelled, unfinished⟩
    rw [told, tick_tally_of_untouched untouched, tally_of_untouched untouched]
    exact ⟨decide_eq_true_iff.trans Nat.lt_iff_add_one_le, rfl, decide_eq_true_iff⟩
  · intro touched
    rw [told]
    exact tick_tally_of_touched (touched_iff.mpr touched)
  · rw [finishNow_progress, Progress.finish, whole]
  · rw [finishNow_progress, Progress.finish]

theorem byHand_ofTwo :
    let ticked := handled 2 .zero [.tick, .tick, .tick]
    let stopped := handled 2 .zero [.tick, .cancel]
    ticked.progress.visible = 2 ∧ ticked.progress.finished = true ∧ ticked.tick.1 = false ∧
    stopped.progress.visible = 1 ∧ stopped.tick = (false, stopped) ∧
    (handled 2 .zero [.tick, .cancel, .finish, .tick]).isRunning = false ∧
    stopped.finishNow.progress.visible = 2 ∧ stopped.finishNow.progress.finished = true := by
  intro ticked stopped
  obtain ⟨_, _, _, _, _, _, counting, _⟩ := byHand_countsOnce 2 .zero [.tick, .tick, .tick] []
  obtain ⟨shows, visible, ends⟩ := counting (by decide) (by decide)
  obtain ⟨_, _, _, _, _, lasting, _, idle, filled, finished⟩ :=
    byHand_countsOnce 2 .zero [.tick, .cancel] [.finish, .tick]
  refine ⟨visible, ends.mpr (by decide), ?_, rfl, idle (by decide), lasting rfl, filled, finished⟩
  rw [← Bool.not_eq_true, shows]
  decide

end Playscript.Reveal
