import Playscript.Duration

/-!
Revealing a line unit by unit. A reveal counts up to its total and ends itself one step after the
last unit. It is driven by hand, one tick at a time, or by a worker that ticks once in every
interval and stops when it has ended or was cancelled.
-/

namespace Playscript

structure Progress where
  visible : Nat
  total : Nat
  finished : Bool
  deriving DecidableEq, Repr, Inhabited

namespace Progress

def start (total : Nat) : Progress := ⟨0, total, false⟩

def advances (progress : Progress) : Bool :=
  !progress.finished && progress.visible < progress.total

def step (progress : Progress) : Progress :=
  if progress.finished then progress
  else if progress.visible < progress.total then { progress with visible := progress.visible + 1 }
  else { progress with finished := true }

def finish (progress : Progress) : Progress :=
  { progress with visible := progress.total, finished := true }

end Progress

inductive RevealMode where
  | manual
  | threaded
  deriving DecidableEq, Repr, Inhabited

structure Reveal where
  mode : RevealMode
  interval : Duration
  progress : Progress
  cancelled : Bool
  deriving DecidableEq, Repr, Inhabited

namespace Reveal

def start (mode : RevealMode) (total : Nat) (interval : Duration) : Reveal :=
  ⟨mode, interval, Progress.start total, false⟩

def isRunning (reveal : Reveal) : Bool :=
  !reveal.progress.finished && !reveal.cancelled

/-- One tick by hand. A reveal with a worker is not ticked by hand; it only tells whether it still
runs. -/
def tick (reveal : Reveal) : Bool × Reveal :=
  match reveal.mode with
  | .threaded => (reveal.isRunning, reveal)
  | .manual =>
    if reveal.cancelled then (false, reveal)
    else (reveal.progress.advances, { reveal with progress := reveal.progress.step })

def cancel (reveal : Reveal) : Reveal :=
  { reveal with cancelled := true }

def finishNow (reveal : Reveal) : Reveal :=
  let shown := { reveal with progress := reveal.progress.finish }
  match reveal.mode with
  | .manual => shown
  | .threaded => shown.cancel

/-- Waits until the worker has stopped: it ticks to the end unless it was cancelled. Without a
worker there is nothing to wait for. -/
def wait (reveal : Reveal) : Reveal :=
  match reveal.mode with
  | .manual => reveal
  | .threaded =>
    if reveal.cancelled then reveal else { reveal with progress := reveal.progress.finish }

end Reveal
end Playscript
