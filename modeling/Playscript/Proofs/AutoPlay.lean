import Playscript.AutoPlay

/-!
What a look at the clock can come to: the timer has nothing to hold, begins a hold, goes on with one,
or fires when it is over.
-/

namespace Playscript.AutoPlay

inductive Polled (config : Config) (timer : AutoPlay) (now : Nat) (settled : Bool) (units : Nat) :
    Bool × AutoPlay → Prop
  | idle : timer.enabled = false ∨ settled = false →
      Polled config timer now settled units (false, ⟨timer.enabled, none⟩)
  | begins : timer.enabled = true → settled = true → timer.holdUntil = none →
      Polled config timer now settled units
        (false, ⟨true, some (now + (config.autoPlayHold units).nanoseconds)⟩)
  | holds {deadline : Nat} : timer.enabled = true → settled = true →
      timer.holdUntil = some deadline → now < deadline →
      Polled config timer now settled units (false, timer)
  | fires {deadline : Nat} : timer.enabled = true → settled = true →
      timer.holdUntil = some deadline → deadline ≤ now →
      Polled config timer now settled units (true, ⟨true, none⟩)

theorem poll_polled (config : Config) (timer : AutoPlay) (now : Nat) (settled : Bool)
    (units : Nat) : Polled config timer now settled units (timer.poll config now settled units) := by
  obtain ⟨enabled, holdUntil⟩ := timer
  cases enabled with
  | false => exact .idle (.inl rfl)
  | true =>
      cases settled with
      | false => exact .idle (.inr rfl)
      | true =>
          cases holdUntil with
          | none => exact .begins rfl rfl rfl
          | some deadline =>
              by_cases elapsed : deadline ≤ now
              · simp only [poll, Bool.and_self, if_true, if_pos elapsed]
                exact .fires rfl rfl rfl elapsed
              · simp only [poll, Bool.and_self, if_true, if_neg elapsed]
                exact .holds rfl rfl rfl (Nat.not_le.mp elapsed)

end Playscript.AutoPlay
