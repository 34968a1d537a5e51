import Playscript.Proofs.Playback.Events
import Playscript.Proofs.Playback.Navigation

/-!
Observers. They are told of a line before anything else comes of it, each once and in their order,
and nothing that they answer makes a difference: apart from their calls a performance is the one
that it would be without them.
-/

namespace Playscript

def Event.isObserved : Event → Bool
  | .observed .. => true
  | _ => false

def Production.observedBy (production : Production) (observers : List Observer) : Production :=
  { production with observers := observers }

def View.withCursor (view : View) (cursor : Address) : View :=
  { view with cursor := cursor }

def observerCalls (count : Nat) (view : View) : List Event :=
  (List.range count).map fun index => .observed index view

/-- What happens, and before whom. An observer that keeps a state of its own is another function in
every moment. -/
structure Scene where
  observers : List Observer
  moment : Moment

def Playback.eventsBefore (production : Production) (playback : Playback) : List Scene → List Event
  | [] => []
  | scene :: rest =>
    let observed := production.observedBy scene.observers
    playback.eventsAt observed scene.moment ++
      (playback.after observed scene.moment).eventsBefore production rest

def Playback.lastBefore (production : Production) (playback : Playback) (scenes : List Scene) :
    Playback :=
  scenes.foldl
    (fun playback scene => playback.after (production.observedBy scene.observers) scene.moment)
    playback

instance (playback : Playback) : Decidable playback.IsPlaying :=
  inferInstanceAs (Decidable (_ ∨ _))

variable {production : Production} {playback : Playback} {observers : List Observer}

theorem observe_eq_observerCalls (production : Production) (view : View) :
    production.observe view = observerCalls production.observers.length view :=
  production.observe_eq view

namespace Playback

theorem dispatch_observedBy (production : Production) (playback : Playback)
    (observers : List Observer) (record : Record) (kind : LineKind) :
    playback.dispatch (production.observedBy observers) record kind =
      playback.dispatch (production.observedBy []) record kind := by
  have same : (production.observedBy observers).SameStory (production.observedBy []) :=
    ⟨rfl, rfl, rfl⟩
  cases kind with
  | speech | narration | terminate => rfl
  | branch => simp only [dispatch, same.branches]

theorem playCursor_observedBy (production : Production) (playback : Playback)
    (observers : List Observer) :
    playback.playCursor (production.observedBy observers) =
      ⟨(playback.playCursor (production.observedBy [])).result,
        (if production.graph.contains playback.view.cursor then
            observerCalls observers.length playback.view else []) ++
          (playback.playCursor (production.observedBy [])).events,
        (playback.playCursor (production.observedBy [])).next⟩ := by
  have graph (others : List Observer) : (production.observedBy others).graph = production.graph := rfl
  have kind (others : List Observer) (record : Record) :
      (production.observedBy others).kindOf? record = production.kindOf? record := rfl
  cases found : production.graph.get? playback.view.cursor with
  | none => simp [playCursor, graph, Graph.contains, found, failedStep]
  | some record =>
      simp only [playCursor, graph, kind, Graph.contains, found, observe_eq_observerCalls]
      cases production.kindOf? record with
      | none => rfl
      | some known =>
          simp only [dispatch_observedBy production playback observers]
          rfl

theorem advance_observedBy (production : Production) (playback : Playback)
    (observers : List Observer) :
    playback.advance (production.observedBy observers) =
      ⟨(playback.advance (production.observedBy [])).result,
        (if playback.IsPlaying ∧ production.graph.contains playback.view.cursor then
            observerCalls observers.length playback.view else []) ++
          (playback.advance (production.observedBy [])).events,
        (playback.advance (production.observedBy [])).next⟩ := by
  by_cases playing : playback.IsPlaying
  · simp only [advance_of_playing playing, playing, true_and]
    exact playCursor_observedBy production playback observers
  · have still : playback.phase = .awaitingChoice ∨ playback.phase = .terminated := by
      revert playing
      unfold IsPlaying
      cases playback.phase <;> simp
    rcases still with awaiting | terminated
    · simp [advance, awaiting, playing]
    · simp [advance, terminated, playing]

theorem advance_unobserved (production : Production) (playback : Playback) :
    ∀ event ∈ (playback.advance (production.observedBy [])).events, event.isObserved = false := by
  have advanced := advance_advanced (production.observedBy []) playback
  have nobody : (production.observedBy []).observe playback.view = [] := rfl
  generalize playback.advance (production.observedBy []) = step at advanced ⊢
  cases advanced with
  | finished | waiting | astray => simp
  | blocked => simp [nobody]
  | shown => simp [nobody, View.rendering, Event.isObserved]
  | offered => simp [nobody, Event.isObserved]
  | ended => simp [nobody, Event.isObserved]

theorem clearingEvents_unobserved (playback : Playback) :
    ∀ event ∈ playback.clearingEvents, event.isObserved = false := by
  unfold clearingEvents
  split <;> simp [Event.isObserved]

theorem perform_unobserved (production : Production) (playback : Playback) {operation : Operation}
    (noAdvance : operation ≠ .advance) (noChoice : ∀ index, operation ≠ .choose index) :
    ∀ event ∈ (playback.perform production operation).events, event.isObserved = false := by
  cases operation with
  | advance => exact absurd rfl noAdvance
  | choose index => exact absurd rfl (noChoice index)
  | jumpTo address =>
      by_cases present : production.graph.contains address = true
      · simp only [perform, jumpTo_of_contains present]
        exact playback.clearingEvents_unobserved
      · simp [perform, jumpTo_of_missing present, Step.map]
  | restart => exact playback.clearingEvents_unobserved
  | tick | skip | wait => simp [perform]

end Playback

def unobservedEvents (events : List Event) : List Event :=
  events.filter fun event => !event.isObserved

theorem unobservedEvents_append (events later : List Event) :
    unobservedEvents (events ++ later) = unobservedEvents events ++ unobservedEvents later :=
  List.filter_append ..

theorem unobservedEvents_eq_self {events : List Event}
    (unobserved : ∀ event ∈ events, event.isObserved = false) : unobservedEvents events = events := by
  rw [unobservedEvents, List.filter_eq_self]
  intro event listed
  simp [unobserved event listed]

theorem unobservedEvents_observerCalls (count : Nat) (view : View) :
    unobservedEvents (observerCalls count view) = [] := by
  simp [unobservedEvents, observerCalls, Event.isObserved]

structure Step.Apart {α : Type} (step quiet : Step α) : Prop where
  result : step.result = quiet.result
  events : unobservedEvents step.events = quiet.events
  next : step.next = quiet.next

theorem Step.Apart.map {α β : Type} {step quiet : Step α} (apart : step.Apart quiet)
    (change : α → β) : (step.map change).Apart (quiet.map change) :=
  ⟨congrArg change apart.result, apart.events, apart.next⟩

theorem Step.Apart.of_unobserved {α : Type} {step : Step α}
    (unobserved : ∀ event ∈ step.events, event.isObserved = false) : step.Apart step :=
  ⟨rfl, unobservedEvents_eq_self unobserved, rfl⟩

namespace Playback

theorem advance_apart (production : Production) (playback : Playback) (observers : List Observer) :
    (playback.advance (production.observedBy observers)).Apart
      (playback.advance (production.observedBy [])) := by
  have quiet := unobservedEvents_eq_self (advance_unobserved production playback)
  rw [advance_observedBy]
  refine ⟨rfl, ?_, rfl⟩
  rw [unobservedEvents_append, quiet]
  split
  · rw [unobservedEvents_observerCalls, List.nil_append]
  · rfl

theorem choose_apart (production : Production) (playback : Playback) (observers : List Observer)
    (index : Nat) : (playback.choose (production.observedBy observers) index).Apart
      (playback.choose (production.observedBy []) index) := by
  unfold choose
  split
  · exact .of_unobserved (by simp [failedStep])
  · split
    · exact .of_unobserved (by simp [failedStep])
    · rename_i option _
      have onward := advance_apart production (playback.moveTo option.target .presenting) observers
      refine ⟨onward.result, ?_, onward.next⟩
      simp only [follow, unobservedEvents_append, onward.events]
      rw [unobservedEvents_eq_self, unobservedEvents_eq_self]
      · rfl
      · simp [Event.isObserved]
      · simp [Event.isObserved]

theorem perform_apart (production : Production) (playback : Playback) (observers : List Observer)
    (operation : Operation) : (playback.perform (production.observedBy observers) operation).Apart
      (playback.perform (production.observedBy []) operation) := by
  cases operation with
  | advance => exact (advance_apart production playback observers).map _
  | choose index => exact (choose_apart production playback observers index).map _
  | jumpTo | restart | tick | skip | wait =>
      exact .of_unobserved (perform_unobserved _ playback Operation.noConfusion
        fun _ => Operation.noConfusion)

theorem after_observedBy (production : Production) (playback : Playback)
    (observers : List Observer) (moment : Moment) :
    playback.after (production.observedBy observers) moment =
      playback.after (production.observedBy []) moment := by
  cases moment with
  | worker => rfl
  | host operation => exact (perform_apart production playback observers operation).next

theorem eventsAt_observedBy (production : Production) (playback : Playback)
    (observers : List Observer) (moment : Moment) :
    unobservedEvents (playback.eventsAt (production.observedBy observers) moment) =
      playback.eventsAt (production.observedBy []) moment := by
  cases moment with
  | worker => rfl
  | host operation => exact (perform_apart production playback observers operation).events

theorem before_observers (production : Production) (playback : Playback) (scenes : List Scene) :
    playback.lastBefore production scenes =
      (scenes.map Scene.moment).foldl (Playback.after (production.observedBy [])) playback ∧
    unobservedEvents (playback.eventsBefore production scenes) =
      playback.eventsOf (production.observedBy []) (scenes.map Scene.moment) := by
  induction scenes generalizing playback with
  | nil => exact ⟨rfl, rfl⟩
  | cons scene rest ih =>
      have next := after_observedBy production playback scene.observers scene.moment
      obtain ⟨last, events⟩ := ih (playback.after (production.observedBy []) scene.moment)
      constructor
      · rw [lastBefore, List.foldl_cons, next]
        exact last
      · rw [eventsBefore, unobservedEvents_append, eventsAt_observedBy, next, events]
        rfl

end Playback

theorem MenuInvariant.of_observedBy
    (invariant : MenuInvariant (production.observedBy observers) playback) :
    MenuInvariant production playback where
  idle := invariant.idle
  offered awaiting := by
    obtain ⟨offering, menuAt⟩ := invariant.offered awaiting
    exact ⟨offering, menuAt.option, menuAt.maximal⟩

structure Playback.Attended (production : Production) (playback : Playback)
    (observers : List Observer) : Prop where
  apart (operation : Operation) :
    (playback.perform (production.observedBy observers) operation).Apart
      (playback.perform (production.observedBy []) operation)
  advance : ∃ others, (∀ event ∈ others, event.isObserved = false) ∧
    (playback.advance (production.observedBy observers)).events =
      (if playback.IsPlaying ∧ production.graph.contains playback.view.cursor then
        observerCalls observers.length playback.view else []) ++ others
  -- The observers are shown the line before, but the cursor is that of the line to come.
  picked (index : Nat) (option : BranchOption) : playback.phase = .awaitingChoice →
    playback.pending[index]? = some option →
    ∃ record others, production.graph.get? option.address = some record ∧
      (∀ event ∈ others, event.isObserved = false) ∧
      (playback.choose (production.observedBy observers) index).events =
        .recorded record :: .optionsCleared ::
          ((if production.graph.contains option.target then
            observerCalls observers.length (playback.view.withCursor option.target) else []) ++
          others)
  refused (index : Nat) :
    playback.phase ≠ .awaitingChoice ∨ playback.pending[index]? = none →
    (playback.choose (production.observedBy observers) index).events = []
  other (operation : Operation) : operation ≠ .advance → (∀ index, operation ≠ .choose index) →
    ∀ event ∈ (playback.perform (production.observedBy observers) operation).events,
      event.isObserved = false

theorem Playback.attended (invariant : MenuInvariant production playback)
    (observers : List Observer) : playback.Attended production observers where
  apart := perform_apart production playback observers
  advance := by
    refine ⟨_, advance_unobserved production playback, ?_⟩
    rw [advance_observedBy]
  picked index option awaiting found := by
    obtain ⟨_, _, record, present, _⟩ := (invariant.offered awaiting).2.option index option found
    have presentHere : (production.observedBy observers).graph.get? option.address = some record :=
      present
    have playing : (playback.moveTo option.target .presenting).IsPlaying := Or.inr rfl
    refine ⟨record, _, present,
      advance_unobserved production (playback.moveTo option.target .presenting), ?_⟩
    rw [choose_of_option awaiting found, follow_of_record presentHere, advance_observedBy]
    simp only [playing, true_and]
    rfl
  refused index refused := by
    have chosen := choose_chosen (production.observedBy observers) playback index
    generalize playback.choose (production.observedBy observers) index = step at chosen ⊢
    cases chosen with
    | idle | outOfRange => rfl
    | followed awaiting found => simp [awaiting, found] at refused
  other _ noAdvance noChoice := perform_unobserved _ playback noAdvance noChoice

/-- Observers are told of a line before anything comes of it, each once and in order, and nothing
that they answer makes a difference. -/
theorem observers_apart (production : Production) (scenes : List Scene) :
    let quiet := production.observedBy []
    let moments := scenes.map Scene.moment
    let playback := production.opening.lastBefore production scenes
    playback = quiet.reached moments ∧
    unobservedEvents (production.opening.eventsBefore production scenes) = quiet.events moments ∧
    ∀ observers, playback.Attended production observers := by
  intro quiet moments playback
  obtain ⟨last, events⟩ := production.opening.before_observers production scenes
  have reached : playback = quiet.reached moments := last
  have invariant : MenuInvariant quiet playback := by
    rw [reached]
    exact (MenuInvariant.kept quiet).reached moments
  exact ⟨reached, events, Playback.attended invariant.of_observedBy⟩

theorem observers_atCrossroads :
    let content : Observer := fun _ => .ok ()
    let failing : Observer := fun _ => .error Fault.noSelection.notice
    let scenes : List Scene :=
      [⟨[content, failing], .host .advance⟩, ⟨[failing, content], .host .advance⟩]
    let playback := crossroads.opening.lastBefore crossroads scenes
    let dispatched := playback.view.withCursor 4
    playback.phase = .awaitingChoice ∧ dispatched.shown = some 1 ∧
    unobservedEvents (crossroads.opening.eventsBefore crossroads scenes) =
      (crossroads.observedBy []).events [.host .advance, .host .advance] ∧
    ∃ record others, (∀ event ∈ others, event.isObserved = false) ∧
      (playback.choose (crossroads.observedBy [failing, content]) 0).events =
        .recorded record :: .optionsCleared :: (observerCalls 2 dispatched ++ others) := by
  intro content failing scenes playback dispatched
  have awaiting : playback.phase = .awaitingChoice := by decide +kernel
  have found : playback.pending[0]? = some ⟨0, 2, "Left", 4⟩ := by decide +kernel
  have present : crossroads.graph.contains 4 = true := by decide
  obtain ⟨_, unobserved, each⟩ := observers_apart crossroads scenes
  obtain ⟨record, others, _, quiet, events⟩ :=
    (each [failing, content]).picked 0 _ awaiting found
  rw [if_pos present] at events
  exact ⟨awaiting, by decide +kernel, unobserved, record, others, quiet, events⟩

end Playscript
