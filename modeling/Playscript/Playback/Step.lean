import Playscript.Playback.State

/-!
The operations on a playback. Each gives a result, the events that its collaborators see, in
order, and the state after it. An operation that fails leaves the state as it was, except that a
choice which leads nowhere is still made.
-/

namespace Playscript

inductive Event where
  | observed (index : Nat) (view : View)
  | recorded (record : Record)
  | labelSet (label : String)
  | bodySet (body : String)
  | portraitSet (portrait : Option Portrait)
  | avatarSet (visible : Bool)
  | optionsPresented (options : List BranchOption)
  | optionsCleared
  | terminated (record : Record)
  deriving DecidableEq, Repr

inductive Outcome where
  | line (address : Address) (kind : LineKind)
  | choices (options : List BranchOption)
  | ended
  deriving DecidableEq, Repr

structure Step (α : Type) where
  result : α
  events : List Event
  next : Playback

namespace Production

def kindOf? (production : Production) (record : Record) : Option LineKind :=
  production.config.kindOf? record.tag

/-- Calls the observers from a place on, in order. The fault of one is passed over, and the next is
called all the same. -/
def observeFrom (view : View) : Nat → List Observer → List Event
  | _, [] => []
  | index, observer :: rest =>
    match observer view with
    | .ok () => .observed index view :: observeFrom view (index + 1) rest
    | .error _ => .observed index view :: observeFrom view (index + 1) rest

theorem observeFrom_eq (view : View) (index : Nat) (observers : List Observer) :
    observeFrom view index observers =
      (List.range' index observers.length).map fun place => .observed place view := by
  induction observers generalizing index with
  | nil => rfl
  | cons observer rest ih =>
      rw [observeFrom, ih, List.length_cons, List.range'_succ, List.map_cons]
      cases observer view <;> rfl

def observe (production : Production) (view : View) : List Event :=
  observeFrom view 0 production.observers

theorem observe_eq (production : Production) (view : View) :
    production.observe view =
      (List.range production.observers.length).map fun place => .observed place view := by
  rw [observe, observeFrom_eq, List.range_eq_range']

theorem exists_of_mem_observe {production : Production} {view : View} {event : Event}
    (told : event ∈ production.observe view) : ∃ index, event = .observed index view := by
  rw [observe_eq] at told
  obtain ⟨index, _, same⟩ := List.mem_map.mp told
  exact ⟨index, same.symm⟩

def requireJump (record : Record) : Except Fault Address :=
  match record.jump with
  | some target => .ok target
  | none => .error (.jumpMissing record.address)

def showLine (production : Production) (record : Record) (target : Address) (label : String)
    (portrait : Option Portrait) (avatar : Bool) : View where
  cursor := target
  label := label
  body := production.config.indentedBody record.body
  portrait := portrait
  avatar := avatar
  shown := some record.address

/-- A spoken line shows its speaker. One who is not in the cast has a name and nothing else. -/
def showSpeech (production : Production) (record : Record) (target : Address) : View :=
  match production.cast.find? record.speaker with
  | some speaker =>
    production.showLine record target (production.config.speakerLabel speaker.name)
      (production.cast.portrait? speaker record.variant) speaker.hasPortrait
  | none =>
    production.showLine record target (production.config.speakerLabel record.speaker) none false

def showNarration (production : Production) (record : Record) (target : Address) : View :=
  production.showLine record target production.config.emptyField none false

def isBranch (production : Production) (record : Record) : Bool :=
  production.kindOf? record == some .branch

/-- The branch records at this address, the next, and so on, among records in ascending order that
do not come before it. -/
def branchRun (production : Production) (address : Address) : List Record → List Record
  | [] => []
  | record :: rest =>
    if record.address = address ∧ production.isBranch record then
      record :: match address.next? with
        | none => []
        | some following => production.branchRun following rest
    else []

def branches (production : Production) (address : Address) : List Record :=
  production.branchRun address
    (production.graph.records.dropWhile fun record => record.address < address)

def branchOptions : Nat → List Record → Except Fault (List BranchOption)
  | _, [] => .ok []
  | index, record :: rest => do
    let target ← requireJump record
    let options ← branchOptions (index + 1) rest
    return ⟨index, record.address, record.body, target⟩ :: options

end Production

namespace View

def rendering (view : View) : List Event :=
  [.labelSet view.label, .bodySet view.body, .portraitSet view.portrait, .avatarSet view.avatar]

end View

namespace Playback

def present (production : Production) (playback : Playback) (view : View) : Playback where
  view := view
  phase := .presenting
  pending := playback.pending
  reveal := some (Reveal.start production.mode (production.units.measure view.body)
    production.interval)

def shownStep (production : Production) (playback : Playback) (record : Record) (kind : LineKind)
    (view : View) : Step (Except Fault Outcome) where
  result := .ok (.line playback.view.cursor kind)
  events := .recorded record :: view.rendering
  next := playback.present production view

def failedStep (playback : Playback) (fault : Fault) : Step (Except Fault α) :=
  ⟨.error fault, [], playback⟩

def dispatch (production : Production) (playback : Playback) (record : Record) :
    LineKind → Step (Except Fault Outcome)
  | .speech =>
    match Production.requireJump record with
    | .error fault => playback.failedStep fault
    | .ok target =>
      playback.shownStep production record .speech (production.showSpeech record target)
  | .narration =>
    match Production.requireJump record with
    | .error fault => playback.failedStep fault
    | .ok target =>
      playback.shownStep production record .narration (production.showNarration record target)
  | .branch =>
    match Production.branchOptions 0 (production.branches record.address) with
    | .error fault => playback.failedStep fault
    | .ok options =>
      ⟨.ok (.choices options), [.optionsPresented options],
        { playback with phase := .awaitingChoice, pending := options }⟩
  | .terminate =>
    ⟨.ok .ended, [.terminated record], { playback with phase := .terminated }⟩

def playCursor (production : Production) (playback : Playback) : Step (Except Fault Outcome) :=
  let cursor := playback.view.cursor
  match production.graph.get? cursor with
  | none => playback.failedStep (.addressMissing cursor)
  | some record =>
    let step :=
      match production.kindOf? record with
      | none => playback.failedStep (.tagUnknown cursor record.tag)
      | some kind => playback.dispatch production record kind
    { step with events := production.observe playback.view ++ step.events }

/-- Plays the line at the cursor and moves on. A pending menu is offered again, and after the end
there is only the end. -/
def advance (production : Production) (playback : Playback) : Step (Except Fault Outcome) :=
  match playback.phase with
  | .terminated => ⟨.ok .ended, [], playback⟩
  | .awaitingChoice => ⟨.ok (.choices playback.pending), [], playback⟩
  | .ready | .presenting => playback.playCursor production

def moveTo (playback : Playback) (address : Address) (phase : Phase) : Playback where
  view := { playback.view with cursor := address }
  phase := phase
  pending := []
  reveal := playback.reveal

def clearingEvents (playback : Playback) : List Event :=
  if playback.pending.isEmpty then [] else [.optionsCleared]

def follow (production : Production) (playback : Playback) (option : BranchOption) :
    Step (Except Fault Outcome) :=
  let recorded := (production.graph.get? option.address).toList.map Event.recorded
  let step := (playback.moveTo option.target .presenting).advance production
  { step with events := recorded ++ [.optionsCleared] ++ step.events }

def choose (production : Production) (playback : Playback) (index : Nat) :
    Step (Except Fault Outcome) :=
  if playback.phase ≠ .awaitingChoice ∨ playback.pending = [] then
    playback.failedStep .noPendingChoice
  else
    match playback.pending[index]? with
    | none => playback.failedStep (.choiceOutOfRange index)
    | some option => playback.follow production option

/-- Gives up the reveal and a pending menu, clears the screen and is ready at the entry again. -/
def restart (production : Production) (playback : Playback) : Step Unit :=
  let still := { playback with reveal := none }
  let idle := { still with pending := [] }
  let blank := { idle with view := { cursor := production.entry } }
  ⟨(), playback.clearingEvents, { blank with phase := .ready }⟩

@[simp] theorem restart_next (production : Production) (playback : Playback) :
    (playback.restart production).next = production.opening :=
  rfl

/-- Moves the cursor and plays nothing. A pending menu is left, and so is the end. -/
def jumpTo (production : Production) (playback : Playback) (address : Address) :
    Step (Except Fault Unit) :=
  if production.graph.contains address then
    ⟨.ok (), playback.clearingEvents,
      playback.moveTo address (if playback.phase = .ready then .ready else .presenting)⟩
  else playback.failedStep (.addressMissing address)

def tick (playback : Playback) : Bool × Playback :=
  match playback.reveal with
  | none => (false, playback)
  | some reveal =>
    let (running, ticked) := reveal.tick
    (running, { playback with reveal := some ticked })

def skip (playback : Playback) : Bool × Playback :=
  match playback.reveal with
  | none => (false, playback)
  | some reveal =>
    if reveal.isRunning then (true, { playback with reveal := some reveal.finishNow })
    else (false, playback)

def wait (playback : Playback) : Playback :=
  { playback with reveal := playback.reveal.map Reveal.wait }

end Playback

inductive Operation where
  | advance
  | choose (index : Nat)
  | jumpTo (address : Address)
  | restart
  | tick
  | skip
  | wait
  deriving DecidableEq, Repr

inductive Reply where
  | outcome (result : Except Fault Outcome)
  | moved (result : Except Fault Unit)
  | flag (value : Bool)
  | done

namespace Step

def map (f : α → β) (step : Step α) : Step β :=
  ⟨f step.result, step.events, step.next⟩

end Step

namespace Playback

def perform (production : Production) (playback : Playback) : Operation → Step Reply
  | .advance => (playback.advance production).map .outcome
  | .choose index => (playback.choose production index).map .outcome
  | .jumpTo address => (playback.jumpTo production address).map .moved
  | .restart => (playback.restart production).map fun () => .done
  | .tick => ⟨.flag playback.tick.1, [], playback.tick.2⟩
  | .skip => ⟨.flag playback.skip.1, [], playback.skip.2⟩
  | .wait => ⟨.done, [], playback.wait⟩

def run (production : Production) (playback : Playback) : List Operation → Step (List Reply)
  | [] => ⟨[], [], playback⟩
  | operation :: rest =>
    let step := playback.perform production operation
    let later := run production step.next rest
    ⟨step.result :: later.result, step.events ++ later.events, later.next⟩

end Playback
end Playscript
