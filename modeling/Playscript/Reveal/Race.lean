import Playscript.Reveal

/-!
A reveal with a worker, access by access. The worker and the host share what is visible, whether
the reveal has finished and whether it was cancelled. Each of them reads or writes one of these at a
time, and their accesses come in any order.
-/

namespace Playscript

/-- Where the worker is in its round. It puts one more unit only if the number that it read has not
changed since. -/
inductive Worker where
  | resting
  | looking
  | adding (seen : Nat)
  | closing
  | gone
  deriving DecidableEq, Repr, Inhabited

inductive Finishing where
  | idle
  | stopped
  | filled
  deriving DecidableEq, Repr, Inhabited

structure Race where
  reveal : Reveal
  worker : Worker
  host : Finishing
  deriving DecidableEq, Repr, Inhabited

inductive Access where
  /-- The worker begins a round and asks whether it was cancelled. -/
  | check
  | look
  | add
  | slip
  | mark
  | cancel
  | stop
  | fill
  | close
  deriving DecidableEq, Repr

namespace Access

def byWorker : Access → Bool
  | check | look | add | slip | mark => true
  | cancel | stop | fill | close => false

def works (access : Access) : Bool :=
  access.byWorker && access != .slip

end Access

def Progress.reader (progress : Progress) : Worker :=
  if progress.visible < progress.total then .adding progress.visible else .closing

namespace Reveal

def showing (reveal : Reveal) (visible : Nat) : Reveal :=
  { reveal with progress := { reveal.progress with visible := visible } }

def closed (reveal : Reveal) : Reveal :=
  { reveal with progress := { reveal.progress with finished := true } }

end Reveal

namespace Race

def start (total : Nat) (interval : Duration) : Race :=
  ⟨Reveal.start .threaded total interval, .resting, .idle⟩

inductive Step : Race → Access → Race → Prop
  | check {reveal : Reveal} {host : Finishing} : reveal.cancelled = false →
      Step ⟨reveal, .resting, host⟩ .check ⟨reveal, .looking, host⟩
  | leave {reveal : Reveal} {host : Finishing} : reveal.cancelled = true →
      Step ⟨reveal, .resting, host⟩ .check ⟨reveal, .gone, host⟩
  | look {reveal : Reveal} {host : Finishing} :
      Step ⟨reveal, .looking, host⟩ .look ⟨reveal, reveal.progress.reader, host⟩
  | add {reveal : Reveal} {host : Finishing} {seen : Nat} : reveal.progress.visible = seen →
      Step ⟨reveal, .adding seen, host⟩ .add ⟨reveal.showing (seen + 1), .resting, host⟩
  | late {reveal : Reveal} {host : Finishing} {seen : Nat} : reveal.progress.visible ≠ seen →
      Step ⟨reveal, .adding seen, host⟩ .add ⟨reveal, reveal.progress.reader, host⟩
  | slip {reveal : Reveal} {host : Finishing} {seen : Nat} :
      Step ⟨reveal, .adding seen, host⟩ .slip ⟨reveal, reveal.progress.reader, host⟩
  | mark {reveal : Reveal} {host : Finishing} :
      Step ⟨reveal, .closing, host⟩ .mark ⟨reveal.closed, .gone, host⟩
  | cancel {reveal : Reveal} {worker : Worker} :
      Step ⟨reveal, worker, .idle⟩ .cancel ⟨reveal.cancel, worker, .idle⟩
  | stop {reveal : Reveal} {worker : Worker} :
      Step ⟨reveal, worker, .idle⟩ .stop ⟨reveal.cancel, worker, .stopped⟩
  | fill {reveal : Reveal} {worker : Worker} :
      Step ⟨reveal, worker, .stopped⟩ .fill
        ⟨reveal.showing reveal.progress.total, worker, .filled⟩
  | close {reveal : Reveal} {worker : Worker} :
      Step ⟨reveal, worker, .filled⟩ .close ⟨reveal.closed, worker, .idle⟩

inductive Runs (start : Race) : List Access → Race → Prop
  | refl : Runs start [] start
  | tail {accesses : List Access} {access : Access} {race next : Race} :
      Runs start accesses race → Step race access next → Runs start (accesses ++ [access]) next

end Race
end Playscript
