import Playscript.Proofs.Playback.Events

/-!
What is taken down of a performance: the lines that were shown and the options that were picked,
each once, in the order in which they were.
-/

namespace Playscript

def Event.record? : Event → Option Record
  | .recorded record => some record
  | _ => none

def recordsOf (events : List Event) : List Record :=
  events.filterMap Event.record?

inductive Production.TakesDown (production : Production) :
    Except Fault Outcome → List Record → Prop
  | line {address : Address} {kind : LineKind} {record : Record} :
      production.graph.get? address = some record →
      TakesDown production (.ok (.line address kind)) [record]
  | menu (options : List BranchOption) : TakesDown production (.ok (.choices options)) []
  | ended : TakesDown production (.ok .ended) []
  | failed (fault : Fault) : TakesDown production (.error fault) []

/-- A choice that is accepted gives the record of its option, and then what the line that it leads
to gives. -/
inductive Playback.TakesDown (production : Production) (playback : Playback) :
    Moment → List Record → Prop
  | advanced {records : List Record} :
      production.TakesDown (playback.advance production).result records →
      TakesDown production playback (.host .advance) records
  | picked {index : Nat} {option : BranchOption} {record : Record} {records : List Record} :
      playback.Accepts production index → playback.pending[index]? = some option →
      production.graph.get? option.address = some record →
      production.TakesDown (playback.choose production index).result records →
      TakesDown production playback (.host (.choose index)) (record :: records)
  | refused {index : Nat} : ¬playback.Accepts production index →
      TakesDown production playback (.host (.choose index)) []
  | jumped (address : Address) : TakesDown production playback (.host (.jumpTo address)) []
  | restarted : TakesDown production playback (.host .restart) []
  | ticked : TakesDown production playback (.host .tick) []
  | skipped : TakesDown production playback (.host .skip) []
  | waited : TakesDown production playback (.host .wait) []
  | worked : TakesDown production playback .worker []

inductive Production.Chronicle (production : Production) : List Moment → List Record → Prop
  | opening : Chronicle production [] []
  | moment {moments : List Moment} {records later : List Record} {moment : Moment} :
      Chronicle production moments records →
      (production.reached moments).TakesDown production moment later →
      Chronicle production (moments ++ [moment]) (records ++ later)

theorem Production.TakesDown.unique {production : Production} {result : Except Fault Outcome}
    {records others : List Record} (first : production.TakesDown result records)
    (second : production.TakesDown result others) : records = others := by
  cases first with
  | line found =>
      cases second with
      | line again =>
          obtain rfl := Option.some.inj (found.symm.trans again)
          rfl
  | menu | ended | failed =>
      cases second
      rfl

namespace Playback

variable {production : Production} {playback : Playback}

theorem TakesDown.unique {moment : Moment} {records others : List Record}
    (first : playback.TakesDown production moment records)
    (second : playback.TakesDown production moment others) : records = others := by
  cases first with
  | advanced given =>
      cases second with
      | advanced again => exact given.unique again
  | picked accepted found present given =>
      cases second with
      | picked _ foundAgain presentAgain again =>
          obtain rfl := Option.some.inj (found.symm.trans foundAgain)
          obtain rfl := Option.some.inj (present.symm.trans presentAgain)
          rw [given.unique again]
      | refused refused => exact absurd accepted refused
  | refused refused =>
      cases second with
      | picked accepted => exact absurd accepted refused
      | refused => rfl
  | jumped | restarted | ticked | skipped | waited | worked =>
      cases second
      rfl

theorem recordsOf_observe (production : Production) (view : View) :
    recordsOf (production.observe view) = [] :=
  filterMap_observe (fun _ _ => rfl) production view

theorem recordsOf_append (events later : List Event) :
    recordsOf (events ++ later) = recordsOf events ++ recordsOf later :=
  List.filterMap_append

theorem Advanced.takesDown {step : Step (Except Fault Outcome)}
    (advanced : Advanced production playback step) :
    production.TakesDown step.result (recordsOf step.events) := by
  cases advanced with
  | finished => exact .ended
  | waiting => exact .menu _
  | astray => exact .failed _
  | blocked =>
      rw [recordsOf_observe]
      exact .failed _
  | shown playing found =>
      rw [recordsOf_append, recordsOf_observe]
      exact .line found
  | offered =>
      rw [recordsOf_append, recordsOf_observe]
      exact .menu _
  | ended =>
      rw [recordsOf_append, recordsOf_observe]
      exact .ended

theorem Passage.takesDown {moment : Moment} {events : List Event} {next : Playback}
    (passage : playback.Passage production moment events next) :
    playback.TakesDown production moment (recordsOf events) := by
  cases passage with
  | turned turns =>
      cases turns with
      | worker => exact .worked
      | tick => exact .ticked
      | skip => exact .skipped
      | wait => exact .waited
  | refused refused => exact .refused refused
  | strayed => exact .jumped _
  | advanced same advanced => exact .advanced (same ▸ advanced.takesDown)
  | picked _ accepted found present same advanced =>
      exact .picked accepted found present (same ▸ advanced.takesDown)
  | jumped =>
      have silent : recordsOf playback.clearingEvents = [] := filterMap_clearing rfl playback
      rw [silent]
      exact .jumped _
  | restarted =>
      have silent : recordsOf playback.clearingEvents = [] := filterMap_clearing rfl playback
      rw [silent]
      exact .restarted

end Playback

/-- The run lemma: the records of all events are the chronicle of the performance, the only one. -/
theorem Production.chronicle_iff (production : Production) (moments : List Moment)
    (records : List Record) :
    production.Chronicle moments records ↔ records = recordsOf (production.events moments) := by
  have taken (moments : List Moment) (moment : Moment) :=
    (Playback.passage ((MenuInvariant.kept production).reached moments) moment).takesDown
  constructor
  · intro chronicle
    induction chronicle with
    | opening => rfl
    | @moment moments _ _ last _ given ih =>
        rw [events_concat, Playback.recordsOf_append, ih, given.unique (taken moments last)]
  · rintro rfl
    induction moments using List.reverseRecOn with
    | nil => exact .opening
    | append_singleton moments last ih =>
        rw [events_concat, Playback.recordsOf_append]
        exact .moment ih (taken moments last)

end Playscript
