import Mathlib.Data.List.TakeDrop
import Playscript.Proofs.Playback.Canvas
import Playscript.Proofs.Playback.Rest

/-!
The part of a line that can be read while it is revealed by hand, character by character. It is the
beginning of the body, as long as the reveal has counted, and it only grows until another line is
shown or the performance starts anew.
-/

namespace Playscript

/-- At none of the moments `between` is a line shown or the performance begun anew. -/
def Production.SameLine (production : Production) (moments between : List Moment) : Prop :=
  ∀ earlier moment later, between = earlier ++ moment :: later →
    moment ≠ .host .restart ∧
    ∀ address, ¬(production.reached (moments ++ earlier)).ShowsLine production moment address

namespace Playback

structure ByHand (playback : Playback) : Prop where
  blank : playback.reveal = none → playback.view.shown = none ∧ playback.view.body = ""
  lit (reveal : Reveal) : playback.reveal = some reveal → reveal.Whole ∧ reveal.mode = .manual ∧
    reveal.progress.total = Units.charCount playback.view.body

def counted (playback : Playback) : Nat :=
  (playback.reveal.map fun reveal => reveal.progress.visible).getD 0

variable {production : Production} {playback next : Playback}

theorem ByHand.turned (byHand : playback.ByHand) (turned : playback.Turned next) : next.ByHand := by
  rcases turned with rfl | ⟨before, after, revealed, turn, rfl⟩
  · exact byHand
  · refine ⟨fun blank => (nomatch blank), fun reveal turned => ?_⟩
    obtain rfl := Option.some.inj turned
    obtain ⟨whole, manual, total⟩ := byHand.lit before revealed
    exact ⟨turn.whole whole, turn.mode.trans manual, turn.total.trans total⟩

theorem byHand_kept (manual : production.mode = .manual) (chars : production.units = Units.chars) :
    Kept production ByHand where
  opening := ⟨fun _ => ⟨rfl, rfl⟩, fun _ revealed => nomatch revealed⟩
  advance playback byHand := by
    have advanced := advance_advanced production playback
    generalize playback.advance production = step at advanced ⊢
    cases advanced with
    | finished | waiting | astray | blocked => exact byHand
    | offered | ended => exact ⟨byHand.blank, byHand.lit⟩
    | shown =>
        refine ⟨fun blank => (nomatch blank), fun reveal revealed => ?_⟩
        obtain rfl := Option.some.inj revealed
        exact ⟨Reveal.start_whole _ _ _, manual, by rw [chars]; rfl⟩
  follow _ _ byHand _ _ := ⟨byHand.blank, byHand.lit⟩
  jump _ _ _ byHand _ _ := ⟨byHand.blank, byHand.lit⟩
  reveal _ _ _ byHand revealed turn := byHand.turned (.inr ⟨_, _, revealed, turn, rfl⟩)

namespace ByHand

theorem counted_le (byHand : playback.ByHand) :
    playback.counted ≤ playback.view.body.toList.length := by
  cases revealed : playback.reveal with
  | none => simp [counted, revealed]
  | some reveal =>
      obtain ⟨whole, _, total⟩ := byHand.lit reveal revealed
      rw [counted, revealed]
      exact Nat.le_trans whole.sound.bounded (Nat.le_of_eq total)

theorem visibleText (byHand : playback.ByHand) (chars : production.units = Units.chars) :
    (playback.visibleText production).toList = playback.view.body.toList.take playback.counted := by
  cases revealed : playback.reveal with
  | none => simp [Playback.visibleText, revealed, (byHand.blank revealed).2]
  | some reveal =>
      obtain ⟨whole, _, total⟩ := byHand.lit reveal revealed
      have bounded := whole.sound.bounded
      by_cases more : reveal.progress.visible < reveal.progress.total
      · simp [Playback.visibleText, counted, revealed, more, chars, Units.chars,
          Units.charLeading]
      · have full : playback.view.body.toList.length ≤ reveal.progress.visible := by
          rw [Units.charCount] at total
          omega
        simp [Playback.visibleText, counted, revealed, more, List.take_of_length_le full]

theorem visibleText_eq_body_iff (byHand : playback.ByHand)
    (chars : production.units = Units.chars) :
    playback.visibleText production = playback.view.body ↔
      playback.counted = playback.view.body.toList.length := by
  have within := byHand.counted_le
  rw [← String.toList_inj, byHand.visibleText chars, List.take_eq_self_iff]
  omega

theorem counted_of_still (byHand : playback.ByHand) (still : playback.isRevealing = false) :
    playback.counted = playback.view.body.toList.length := by
  cases revealed : playback.reveal with
  | none => simp [counted, revealed, (byHand.blank revealed).2]
  | some reveal =>
      obtain ⟨whole, _, total⟩ := byHand.lit reveal revealed
      have stopped : reveal.isRunning = false := by simpa [isRevealing, revealed] using still
      have full := whole.sound.complete (whole.finished stopped)
      simp only [counted, revealed, Option.map_some, Option.getD_some, full, total]
      rfl

theorem tick (byHand : playback.ByHand) :
    playback.tick.2.counted = playback.counted + playback.tick.1.toNat := by
  obtain ⟨view, phase, pending, _ | reveal⟩ := playback
  · rfl
  · obtain ⟨_, manual, _⟩ := byHand.lit reveal rfl
    by_cases cancelled : reveal.cancelled = true
    · simp [Playback.tick, Reveal.tick, manual, cancelled, counted]
    · simp [Playback.tick, Reveal.tick, manual, cancelled, counted, Progress.step_visible]

theorem skip_still (playback : Playback) : playback.skip.2.isRevealing = false := by
  obtain ⟨view, phase, pending, _ | reveal⟩ := playback
  · rfl
  · by_cases running : reveal.isRunning = true
    · have stopped : reveal.finishNow.isRunning = false := by
        rw [Reveal.isRunning, Reveal.finishNow_progress]
        rfl
      simp [skip, running, isRevealing, stopped]
    · simp [skip, running, isRevealing]

section Reads

variable (byHand : playback.ByHand) (chars : production.units = Units.chars)

include byHand chars

theorem reads_line {address : Address} (lit : playback.view.shown = some address) :
    ∃ reveal, playback.reveal = some reveal ∧
      let text := playback.visibleText production
      let count := min reveal.progress.visible reveal.progress.total
      text.toList = playback.view.body.toList.take count ∧ text.toList.length = count ∧
      (text = playback.view.body ↔ reveal.progress.visible = reveal.progress.total) ∧
      (playback.isRevealing = false → text = playback.view.body) := by
  cases revealed : playback.reveal with
  | none =>
      rw [(byHand.blank revealed).1] at lit
      cases lit
  | some reveal =>
      obtain ⟨whole, _, total⟩ := byHand.lit reveal revealed
      have bounded := whole.sound.bounded
      have count : playback.counted = reveal.progress.visible := by
        simp [counted, revealed]
      have reads := byHand.visibleText chars
      have within := byHand.counted_le
      have all := byHand.visibleText_eq_body_iff chars
      rw [count] at reads within all
      refine ⟨reveal, rfl, ?_, ?_, ?_, ?_⟩
      · rw [Nat.min_eq_left bounded]
        exact reads
      · rw [Nat.min_eq_left bounded, reads, List.length_take, Nat.min_eq_left within]
      · rw [total]
        exact all
      · intro still
        exact all.mpr (count.symm.trans (byHand.counted_of_still still))

theorem reads_tick : ∃ shown, (playback.tick.2.visibleText production).toList =
    (playback.visibleText production).toList ++ shown ∧ shown.length = playback.tick.1.toNat := by
  have ticked := byHand.turned playback.tick_turned
  have body : playback.tick.2.view.body = playback.view.body := by
    rw [playback.tick_turned.view]
  have within := ticked.counted_le
  rw [byHand.tick, body] at within
  rw [ticked.visibleText chars, byHand.visibleText chars, byHand.tick, body, List.take_add]
  exact ⟨_, rfl, by rw [List.length_take, List.length_drop]; omega⟩

theorem reads_skip : playback.skip.2.visibleText production = playback.view.body := by
  have skipped := byHand.turned playback.skip_turned
  have all := skipped.counted_of_still (skip_still playback)
  rw [(skipped.visibleText_eq_body_iff chars).mpr all, playback.skip_turned.view]

end Reads

end ByHand

theorem Keeps.counted_le (byHand : playback.ByHand) (keeps : playback.Keeps next) :
    playback.counted ≤ next.counted := by
  rcases keeps.reveal with same | ⟨before, after, revealed, turn, turned⟩
  · exact Nat.le_of_eq (by rw [counted, counted, same])
  · have sound := (byHand.lit before revealed).1.sound
    simp only [counted, revealed, turned, Option.map_some, Option.getD_some]
    exact turn.visible_le sound

theorem Keeps.visibleText (byHand : playback.ByHand) (nextByHand : next.ByHand)
    (chars : production.units = Units.chars) (keeps : playback.Keeps next) :
    (playback.visibleText production).toList <+: (next.visibleText production).toList := by
  have body : next.view.body = playback.view.body := by rw [keeps.view]
  rw [byHand.visibleText chars, nextByHand.visibleText chars, body]
  exact List.take_prefix_take_left (keeps.counted_le byHand)

end Playback

theorem Production.sameLine_cons_iff (production : Production) (moments rest : List Moment)
    (moment : Moment) :
    production.SameLine moments (moment :: rest) ↔
      (moment ≠ .host .restart ∧
        ∀ address, ¬(production.reached moments).ShowsLine production moment address) ∧
      production.SameLine (moments ++ [moment]) rest := by
  constructor
  · intro same
    constructor
    · simpa using same [] moment rest rfl
    · rintro earlier next later rfl
      rw [← List.append_cons]
      exact same (moment :: earlier) next later rfl
  · rintro ⟨first, same⟩ earlier next later split
    cases earlier with
    | nil =>
        obtain ⟨rfl, rfl⟩ := List.cons.inj split
        simpa using first
    | cons _ earlier =>
        obtain ⟨rfl, rfl⟩ := List.cons.inj split
        rw [List.append_cons]
        exact same earlier next later rfl

theorem Production.SameLine.grows {production : Production} (manual : production.mode = .manual)
    (chars : production.units = Units.chars) {moments between : List Moment}
    (same : production.SameLine moments between) :
    ((production.reached moments).visibleText production).toList <+:
      ((production.reached (moments ++ between)).visibleText production).toList := by
  have byHand (moments : List Moment) : (production.reached moments).ByHand :=
    (Playback.byHand_kept manual chars).reached moments
  induction between generalizing moments with
  | nil => simp
  | cons moment rest ih =>
      obtain ⟨⟨notAnew, noLine⟩, later⟩ := (production.sameLine_cons_iff _ _ _).mp same
      have step : ((production.reached moments).visibleText production).toList <+:
          ((production.reached (moments ++ [moment])).visibleText production).toList := by
        have nextByHand := byHand (moments ++ [moment])
        rw [reached_concat] at nextByHand ⊢
        have invariant := (MenuInvariant.kept production).reached moments
        cases (Playback.passage invariant moment).drawing with
        | shown shows => exact absurd shows (noLine _)
        | kept _ _ keeps => exact keeps.visibleText (byHand moments) nextByHand chars
        | cleared anew => exact absurd anew notAnew
      rw [List.append_cons]
      exact step.trans (ih later)

/-- What can be read is the beginning of the body that was counted, and it only grows while the line
stays. -/
theorem visibleText_grows (production : Production) (manual : production.mode = .manual)
    (chars : production.units = Units.chars) (moments : List Moment) :
    let playback := production.reached moments
    let text := playback.visibleText production
    (∀ address, playback.view.shown = some address → ∃ reveal, playback.reveal = some reveal ∧
      let count := min reveal.progress.visible reveal.progress.total
      text.toList = playback.view.body.toList.take count ∧ text.toList.length = count ∧
      (text = playback.view.body ↔ reveal.progress.visible = reveal.progress.total) ∧
      (playback.isRevealing = false → text = playback.view.body)) ∧
    (playback.tick.1 = true →
      ∃ c, (playback.tick.2.visibleText production).toList = text.toList ++ [c]) ∧
    (playback.tick.1 = false → playback.tick.2.visibleText production = text) ∧
    (∀ between, production.SameLine moments between → text.toList <+:
      ((production.reached (moments ++ between)).visibleText production).toList) ∧
    (playback.skip.1 = true ↔ playback.isRevealing = true) ∧
    playback.skip.2.visibleText production = playback.view.body ∧
    playback.skip.2.view = playback.view := by
  intro playback text
  have byHand : playback.ByHand := (Playback.byHand_kept manual chars).reached moments
  obtain ⟨shown, ticked, length⟩ := byHand.reads_tick chars
  refine ⟨fun _ lit => byHand.reads_line chars lit, ?_, ?_, fun _ same => same.grows manual chars,
    ?_, byHand.reads_skip chars, playback.skip_turned.view⟩
  · intro more
    rw [more] at length
    obtain ⟨c, rfl⟩ := List.length_eq_one_iff.mp length
    exact ⟨c, ticked⟩
  · intro noMore
    rw [noMore] at length
    obtain rfl := List.length_eq_zero_iff.mp length
    rw [← String.toList_inj, ticked, List.append_nil]
  · rw [Playback.skip_fst]

theorem visibleText_atCrossroads :
    let asked : List Moment := [.host .advance, .host .tick]
    let between : List Moment := [.host .tick, .host .advance, .host (.jumpTo 4), .host .advance]
    let playback := crossroads.reached asked
    playback.view.shown = some 1 ∧ playback.view.body = "  Where now?" ∧
    (playback.visibleText crossroads).toList.length = 1 ∧
    (∃ c, (playback.tick.2.visibleText crossroads).toList =
      (playback.visibleText crossroads).toList ++ [c]) ∧
    crossroads.SameLine asked between ∧
    (playback.visibleText crossroads).toList <+:
      ((crossroads.reached (asked ++ between)).visibleText crossroads).toList ∧
    playback.skip.2.visibleText crossroads = "  Where now?" := by
  intro asked between playback
  have same : crossroads.SameLine asked between := by
    simp only [between, Production.sameLine_cons_iff]
    refine ⟨⟨by decide, ?_⟩, ⟨by decide, ?_⟩, ⟨by decide, ?_⟩, ⟨by decide, ?_⟩, ?_⟩
    · exact fun _ shows => nomatch shows
    · rintro address ⟨shown⟩
      cases shown
    · exact fun _ shows => nomatch shows
    · rintro address ⟨shown⟩
      cases shown
    · rintro earlier moment later split
      simp at split
  have lit : playback.view.shown = some 1 := by decide +kernel
  have body : playback.view.body = "  Where now?" := by decide +kernel
  obtain ⟨line, ticked, _, grows, _, skipped, _⟩ :=
    visibleText_grows crossroads rfl rfl asked
  obtain ⟨reveal, revealed, _, length, _⟩ := line 1 lit
  have one : some reveal.progress = some ⟨1, 12, false⟩ := by
    rw [← Option.map_some (f := Reveal.progress), ← revealed]
    decide +kernel
  refine ⟨lit, body, ?_, ticked (by decide +kernel), same, grows between same, ?_⟩
  · rw [length, Option.some.inj one]
    rfl
  · exact skipped.trans body

end Playscript
