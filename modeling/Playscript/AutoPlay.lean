import Playscript.Config

/-!
The timer that moves on by itself. It holds every line that has settled for a time that depends on
the length of the line, and fires once when the hold is over. Whatever unsettles the line ends the
hold.
-/

namespace Playscript

/-- Points in time are nanoseconds after some fixed start. -/
structure AutoPlay where
  enabled : Bool
  holdUntil : Option Nat := none
  deriving DecidableEq, Repr, Inhabited

namespace AutoPlay

/-- The last point in time that a clock can tell, with seconds in 64 bits and a sign. Nothing is said
of later holds. -/
def lastInstant : Nat := 0x8000000000000000 * 1000000000 - 1

def toggle (timer : AutoPlay) : AutoPlay :=
  ⟨!timer.enabled, none⟩

/-- Looks at the clock, and tells whether the timer fires. The units count when the hold begins. -/
def poll (config : Config) (timer : AutoPlay) (now : Nat) (settled : Bool) (units : Nat) :
    Bool × AutoPlay :=
  if timer.enabled && settled then
    match timer.holdUntil with
    | none => (false, { timer with holdUntil := some (now + (config.autoPlayHold units).nanoseconds) })
    | some deadline =>
      if deadline ≤ now then (true, { timer with holdUntil := none }) else (false, timer)
  else (false, { timer with holdUntil := none })

end AutoPlay
end Playscript
