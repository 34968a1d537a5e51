import Mathlib.Data.List.Induction
import Playscript.Proofs.AutoPlay

/-!
The timer by its history. Every hold was begun by a look at a settled line, the first look since
something ended the hold before it, and has been left alone by all that came since; the timer fires
at a settled line when that hold is over. Times may go back as well as forward.
-/

namespace Playscript.AutoPlay

inductive Use where
  | toggle
  | poll (now : Nat) (settled : Bool) (units : Nat)
  deriving DecidableEq, Repr

def fires (config : Config) (timer : AutoPlay) : Use → Bool
  | .toggle => false
  | .poll now settled units => (timer.poll config now settled units).1

def after (config : Config) (timer : AutoPlay) : Use → AutoPlay
  | .toggle => timer.toggle
  | .poll now settled units => (timer.poll config now settled units).2

def used (config : Config) (initial : Bool) (uses : List Use) : AutoPlay :=
  uses.foldl (after config) { enabled := initial }

def holdOver (config : Config) (begun units : Nat) : Nat :=
  begun + (config.autoPlayHold units).nanoseconds

/-- What leaves no hold running: a toggle, a look at an unsettled line, or a firing. -/
def Ends (config : Config) (timer : AutoPlay) (use : Use) : Prop :=
  use = .toggle ∨ (∃ now units, use = .poll now false units) ∨ timer.fires config use = true

def Fresh (config : Config) (initial : Bool) (uses : List Use) : Prop :=
  ∀ earlier last, uses = earlier ++ [last] → (used config initial earlier).Ends config last

def Unbroken (config : Config) (initial : Bool) (uses later : List Use) : Prop :=
  ∀ before use rest, later = before ++ use :: rest →
    ¬(used config initial (uses ++ before)).Ends config use

/-- A hold that is running, with what came before the look that began it and what has come since. -/
structure Holding (config : Config) (initial : Bool) (uses earlier : List Use) (begun units : Nat)
    (later : List Use) : Prop where
  split : uses = earlier ++ .poll begun true units :: later
  on : (used config initial earlier).enabled = true
  silent : (used config initial earlier).fires config (.poll begun true units) = false
  first : Fresh config initial earlier
  unbroken : Unbroken config initial (earlier ++ [.poll begun true units]) later

inductive Step (config : Config) (timer : AutoPlay) (use : Use) : AutoPlay → Prop
  | idles : timer.enabled = false → Step config timer use ⟨false, none⟩
  | ends (enabled : Bool) : timer.Ends config use → Step config timer use ⟨enabled, none⟩
  | begins {begun units : Nat} : use = .poll begun true units → timer = ⟨true, none⟩ →
      ¬timer.Ends config use → Step config timer use ⟨true, some (holdOver config begun units)⟩
  | holds {deadline : Nat} : timer = ⟨true, some deadline⟩ → ¬timer.Ends config use →
      Step config timer use timer

variable {config : Config} {initial : Bool} {timer : AutoPlay} {uses earlier later : List Use}
  {use : Use} {begun units deadline : Nat}

theorem used_append (config : Config) (initial : Bool) (uses later : List Use) :
    used config initial (uses ++ later) = later.foldl (after config) (used config initial uses) :=
  List.foldl_append

theorem used_concat (config : Config) (initial : Bool) (uses : List Use) (use : Use) :
    used config initial (uses ++ [use]) = (used config initial uses).after config use := by
  rw [used_append, List.foldl_cons, List.foldl_nil]

theorem after_begins (config : Config) (on : timer.enabled = true) (idle : timer.holdUntil = none)
    (begun units : Nat) : timer.fires config (.poll begun true units) = false ∧
      timer.after config (.poll begun true units) = ⟨true, some (holdOver config begun units)⟩ := by
  obtain ⟨_, _⟩ := timer
  cases on
  cases idle
  exact ⟨rfl, rfl⟩

theorem after_step (config : Config) (timer : AutoPlay) (use : Use) :
    Step config timer use (timer.after config use) := by
  cases use with
  | toggle => exact .ends _ (.inl rfl)
  | poll now settled units =>
      have polled := timer.poll_polled config now settled units
      have told : timer.fires config (.poll now settled units) =
        (timer.poll config now settled units).1 := rfl
      simp only [after]
      generalize timer.poll config now settled units = answer at polled told ⊢
      cases polled with
      | idle idle =>
          rcases idle with off | unsettled
          · rw [off]
            exact .idles off
          · exact .ends _ (.inr (.inl ⟨now, units, by rw [unsettled]⟩))
      | begins on settles idle =>
          cases settles
          have rest : timer = ⟨true, none⟩ := by rw [← on, ← idle]
          exact .begins rfl rest (by simp [Ends, told])
      | @holds deadline on settles running =>
          cases settles
          have held : timer = ⟨true, some deadline⟩ := by rw [← on, ← running]
          exact .holds held (by simp [Ends, told])
      | fires => exact .ends _ (.inr (.inr told))

theorem ends_iff (on : (timer.after config use).enabled = true) :
    timer.Ends config use ↔ (timer.after config use).holdUntil = none := by
  have step := timer.after_step config use
  generalize timer.after config use = next at step on ⊢
  cases step with
  | idles => cases on
  | ends _ ends => exact iff_of_true ends rfl
  | begins _ _ calm => exact iff_of_false calm nofun
  | holds running calm => exact iff_of_false calm (by simp [running])

theorem fresh_iff (on : (used config initial uses).enabled = true) :
    Fresh config initial uses ↔ (used config initial uses).holdUntil = none := by
  cases uses using List.reverseRecOn with
  | nil => exact iff_of_true (fun _ _ split => by simp at split) rfl
  | append_singleton earlier last =>
      rw [used_concat] at on ⊢
      rw [← ends_iff on]
      constructor
      · intro fresh
        exact fresh earlier last rfl
      · intro ends before use split
        obtain ⟨rfl, same⟩ := List.append_inj' split rfl
        obtain rfl := List.singleton_inj.mp same
        exact ends

theorem after_of_not_ends (held : timer = ⟨true, some deadline⟩) (calm : ¬timer.Ends config use) :
    timer.after config use = ⟨true, some deadline⟩ := by
  have step := timer.after_step config use
  generalize timer.after config use = next at step ⊢
  cases step with
  | idles off => simp [held] at off
  | ends _ ends => exact absurd ends calm
  | begins _ idle => simp [held] at idle
  | holds => exact held

theorem hold_cases (held : (timer.after config use).holdUntil = some deadline) :
    (timer = ⟨true, some deadline⟩ ∧ ¬timer.Ends config use) ∨
      ∃ begun units, use = .poll begun true units ∧ timer = ⟨true, none⟩ ∧
        holdOver config begun units = deadline := by
  have step := timer.after_step config use
  generalize timer.after config use = next at step held
  cases step with
  | idles | ends => cases held
  | begins polls idle => exact .inr ⟨_, _, polls, idle, Option.some.inj held⟩
  | holds running calm =>
      obtain rfl : _ = deadline := by simpa [running] using held
      exact .inl ⟨running, calm⟩

theorem unbroken_nil (config : Config) (initial : Bool) (uses : List Use) :
    Unbroken config initial uses [] := by
  intro before use rest split
  simp at split

theorem unbroken_concat_iff : Unbroken config initial uses (later ++ [use]) ↔
    Unbroken config initial uses later ∧
      ¬(used config initial (uses ++ later)).Ends config use := by
  constructor
  · intro unbroken
    refine ⟨fun before other rest split => ?_, unbroken later use [] rfl⟩
    exact unbroken before other (rest ++ [use]) (by simp [split])
  · rintro ⟨unbroken, calm⟩ before other rest split
    cases rest using List.reverseRecOn with
    | nil =>
        obtain ⟨rfl, same⟩ := List.append_inj' split rfl
        obtain rfl := List.singleton_inj.mp same
        exact calm
    | append_singleton rest last =>
        rw [← List.cons_append, ← List.append_assoc] at split
        exact unbroken before other rest (List.append_inj' split rfl).1

theorem used_unbroken (held : used config initial uses = ⟨true, some deadline⟩)
    (unbroken : Unbroken config initial uses later) :
    used config initial (uses ++ later) = ⟨true, some deadline⟩ := by
  induction later using List.reverseRecOn with
  | nil => rwa [List.append_nil]
  | append_singleton later use ih =>
      obtain ⟨before, calm⟩ := unbroken_concat_iff.mp unbroken
      rw [← List.append_assoc, used_concat]
      exact after_of_not_ends (ih before) calm

theorem Holding.timer_eq (holding : Holding config initial uses earlier begun units later) :
    used config initial uses = ⟨true, some (holdOver config begun units)⟩ := by
  have idle := (fresh_iff holding.on).mp holding.first
  rw [holding.split, List.append_cons]
  refine used_unbroken ?_ holding.unbroken
  rw [used_concat, (after_begins config holding.on idle begun units).2]

theorem Holding.extend (holding : Holding config initial uses earlier begun units later)
    (calm : ¬(used config initial uses).Ends config use) :
    Holding config initial (uses ++ [use]) earlier begun units (later ++ [use]) where
  split := by rw [holding.split, List.append_assoc, List.cons_append]
  on := holding.on
  silent := holding.silent
  first := holding.first
  unbroken := by
    rw [holding.split, List.append_cons] at calm
    exact unbroken_concat_iff.mpr ⟨holding.unbroken, calm⟩

theorem holding_of_holdUntil (held : (used config initial uses).holdUntil = some deadline) :
    ∃ earlier begun units later, Holding config initial uses earlier begun units later ∧
      holdOver config begun units = deadline := by
  induction uses using List.reverseRecOn with
  | nil => cases held
  | append_singleton uses use ih =>
      rw [used_concat] at held
      rcases hold_cases held with ⟨running, calm⟩ | ⟨begun, units, rfl, rest, elapses⟩
      · obtain ⟨earlier, begun, units, later, holding, elapses⟩ := ih (by rw [running])
        exact ⟨earlier, begun, units, later ++ [use], holding.extend calm, elapses⟩
      · have on : (used config initial uses).enabled = true := by rw [rest]
        have idle : (used config initial uses).holdUntil = none := by rw [rest]
        have silent := (after_begins config on idle begun units).1
        exact ⟨uses, begun, units, [], ⟨rfl, on, silent, (fresh_iff on).mpr idle,
          unbroken_nil config initial _⟩, elapses⟩

/-- What a clock has to be able to tell for a use: where a hold would be over that began there. -/
def Use.Tellable (config : Config) : Use → Prop
  | .poll now true units => holdOver config now units ≤ lastInstant
  | _ => True

theorem deadline_le_lastInstant (tellable : ∀ use ∈ uses, use.Tellable config)
    (held : (used config initial uses).holdUntil = some deadline) : deadline ≤ lastInstant := by
  obtain ⟨earlier, begun, units, later, holding, rfl⟩ := holding_of_holdUntil held
  apply tellable (.poll begun true units)
  rw [holding.split]
  exact List.mem_append_right _ List.mem_cons_self

theorem fires_iff (now : Nat) (settled : Bool) (lineUnits : Nat) :
    (used config initial uses).fires config (.poll now settled lineUnits) = true ↔
      (used config initial uses).enabled = true ∧ settled = true ∧
        ∃ earlier begun units later, Holding config initial uses earlier begun units later ∧
          holdOver config begun units ≤ now := by
  have polled := (used config initial uses).poll_polled config now settled lineUnits
  simp only [fires]
  constructor
  · intro fired
    generalize (used config initial uses).poll config now settled lineUnits = answer
      at polled fired
    cases polled with
    | fires on settles held elapsed =>
        obtain ⟨earlier, begun, units, later, holding, elapses⟩ := holding_of_holdUntil held
        exact ⟨on, settles, earlier, begun, units, later, holding, elapses ▸ elapsed⟩
    | idle | begins | holds => cases fired
  · rintro ⟨_, rfl, earlier, begun, units, later, holding, elapsed⟩
    rw [holding.timer_eq]
    exact congrArg Prod.fst (if_pos elapsed)

theorem Holding.after_firing {first middle : List Use}
    (holding : Holding config initial (first ++ use :: middle) earlier begun units later)
    (fired : (used config initial first).fires config use = true) :
    ∃ before, middle = before ++ .poll begun true units :: later ∧
      earlier = first ++ use :: before := by
  -- The look that began the hold did not fire.
  have different : earlier = first → use ≠ .poll begun true units := by
    rintro rfl rfl
    rw [holding.silent] at fired
    contradiction
  rcases List.append_eq_append_iff.mp holding.split with
    ⟨between, here, split⟩ | ⟨between, here, split⟩
  · cases between with
    | nil => exact absurd (List.cons.inj split).1 (different (by simp [here]))
    | cons other before =>
        obtain ⟨rfl, rfl⟩ := List.cons.inj split
        exact ⟨before, rfl, here⟩
  · cases between with
    | nil => exact absurd (List.cons.inj split).1.symm (different (by simp [here]))
    | cons other before =>
        obtain ⟨rfl, rfl⟩ := List.cons.inj split
        rw [here, List.append_cons] at fired
        exact absurd (.inr (.inr fired)) (holding.unbroken before use middle rfl)

theorem after_enabled (timer : AutoPlay) (use : Use) :
    (timer.after config use).enabled = (timer.enabled ^^ decide (use = .toggle)) := by
  cases use with
  | toggle => simp [after, toggle]
  | poll now settled units =>
      have polled := timer.poll_polled config now settled units
      simp only [after]
      generalize timer.poll config now settled units = answer at polled ⊢
      cases polled with
      | idle | holds => simp
      | begins on | fires on => simp [on]

theorem enabled_used (config : Config) (initial : Bool) (uses : List Use) :
    (used config initial uses).enabled = (initial ^^ decide (uses.count .toggle % 2 = 1)) := by
  induction uses using List.reverseRecOn with
  | nil => simp [used]
  | append_singleton uses use ih =>
      rw [used_concat, after_enabled, ih, List.count_append, Bool.xor_assoc]
      congr 1
      by_cases toggles : use = .toggle
      · rcases Nat.mod_two_eq_zero_or_one (uses.count .toggle) with even | odd
        · simp [toggles, Nat.add_mod, even]
        · simp [toggles, Nat.add_mod, odd]
      · simp [toggles]

/-- The timer fires exactly when it is on, the line is settled, and the hold is over that a look
began. -/
theorem poll_firesAfterHold (config : Config) (initial : Bool) (uses : List Use) (now : Nat)
    (settled : Bool) (units : Nat) :
    let timer := used config initial uses
    ((timer.poll config now settled units).1 = true ↔
      timer.enabled = true ∧ settled = true ∧
        ∃ earlier begun begunUnits later,
          Holding config initial uses earlier begun begunUnits later ∧
          begun + (config.autoPlayHold begunUnits).nanoseconds ≤ now) ∧
    (∀ first use middle, uses = first ++ use :: middle →
      (used config initial first).fires config use = true →
      (timer.poll config now settled units).1 = true →
      ∃ before begun begunUnits later, middle = before ++ .poll begun true begunUnits :: later ∧
        let resting := used config initial (first ++ use :: before)
        resting.holdUntil = none ∧
        resting.fires config (.poll begun true begunUnits) = false ∧
        (resting.after config (.poll begun true begunUnits)).holdUntil =
          some (begun + (config.autoPlayHold begunUnits).nanoseconds)) ∧
    timer.enabled = (initial ^^ decide (uses.count .toggle % 2 = 1)) ∧
    ∀ later, (later ++ [.toggle]).count .toggle % 2 = 0 →
      used config initial (uses ++ (later ++ [.toggle])) = ⟨timer.enabled, none⟩ := by
  intro timer
  refine ⟨fires_iff now settled units, ?_, enabled_used config initial uses, ?_⟩
  · rintro first use middle rfl fired firesAgain
    obtain ⟨_, _, _, begun, begunUnits, later, holding, _⟩ :=
      (fires_iff now settled units).mp firesAgain
    obtain ⟨before, split, rfl⟩ := holding.after_firing fired
    have idle := (fresh_iff holding.on).mp holding.first
    exact ⟨before, begun, begunUnits, later, split, idle, holding.silent,
      congrArg holdUntil (after_begins config holding.on idle begun begunUnits).2⟩
  · intro later even
    have same : (used config initial (uses ++ (later ++ [.toggle]))).enabled = timer.enabled := by
      rw [enabled_used, enabled_used, List.count_append, Nat.add_mod, even]
      simp
    rw [← same, ← List.append_assoc, used_concat]
    rfl

theorem poll_atMetronome :
    let first : List Use := [.poll 5 true 10, .poll 3 true 99]
    let middle : List Use := [.toggle, .poll 0 true 4, .toggle, .poll 7 true 0]
    let timer := used {} true (first ++ .poll 2000000000 true 1 :: middle)
    ((used {} true first).poll {} 1500000004 true 1).1 = false ∧
    (used {} true first).fires {} (.poll 2000000000 true 1) = true ∧
    (timer.poll {} 7 true 1).1 = true ∧
    (∃ before begun units later, middle = before ++ .poll begun true units :: later ∧
      (used {} true (first ++ .poll 2000000000 true 1 :: before)).holdUntil = none) ∧
    used {} true (first ++ [.toggle, .poll 0 true 4, .toggle]) = ⟨true, none⟩ := by
  intro first middle timer
  have fired : (used {} true first).fires {} (.poll 2000000000 true 1) = true := by decide +kernel
  have firesAgain : (timer.poll {} 7 true 1).1 = true := by decide +kernel
  obtain ⟨_, between, _⟩ :=
    poll_firesAfterHold {} true (first ++ .poll 2000000000 true 1 :: middle) 7 true 1
  obtain ⟨_, _, on, lost⟩ := poll_firesAfterHold {} true first 0 true 1
  -- The hold was begun at 5 for ten units, which is for a second and a half.
  have tooEarly : ((used {} true first).poll {} 1500000004 true 1).1 = false := by decide +kernel
  obtain ⟨before, begun, units, later, split, idle, _⟩ := between _ _ _ rfl fired firesAgain
  have turned := lost [.toggle, .poll 0 true 4] (by decide)
  rw [on] at turned
  exact ⟨tooEarly, fired, firesAgain, ⟨before, begun, units, later, split, idle⟩, turned⟩

end Playscript.AutoPlay
