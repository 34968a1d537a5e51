import Mathlib.Data.List.Induction
import Playscript.Proofs.Playback.Menu

/-!
The events of a performance, moment by moment. A property that links the events so far with the
state after them is proved once for the moment that comes next, in `Production.linked`.
-/

namespace Playscript

inductive Moment.Turns : Moment → Prop
  | worker : Turns .worker
  | tick : Turns (.host .tick)
  | skip : Turns (.host .skip)
  | wait : Turns (.host .wait)

def Playback.eventsAt (production : Production) (playback : Playback) : Moment → List Event
  | .host operation => (playback.perform production operation).events
  | .worker => []

def Playback.eventsOf (production : Production) (playback : Playback) : List Moment → List Event
  | [] => []
  | moment :: rest =>
    playback.eventsAt production moment ++
      (playback.after production moment).eventsOf production rest

def Production.events (production : Production) (moments : List Moment) : List Event :=
  production.opening.eventsOf production moments

namespace Playback

theorem eventsOf_append (production : Production) (playback : Playback)
    (moments later : List Moment) :
    playback.eventsOf production (moments ++ later) = playback.eventsOf production moments ++
      (moments.foldl (Playback.after production) playback).eventsOf production later := by
  induction moments generalizing playback with
  | nil => rfl
  | cons moment rest ih =>
      rw [List.cons_append, eventsOf, ih, eventsOf, List.append_assoc, List.foldl_cons]

theorem filterMap_observe {α : Type} {view : Event → Option α}
    (blind : ∀ index seen, view (.observed index seen) = none) (production : Production)
    (seen : View) : (production.observe seen).filterMap view = [] := by
  rw [List.filterMap_eq_nil_iff]
  intro event told
  obtain ⟨index, rfl⟩ := Production.exists_of_mem_observe told
  exact blind index seen

theorem filterMap_clearing {α : Type} {view : Event → Option α}
    (blind : view .optionsCleared = none) (playback : Playback) :
    playback.clearingEvents.filterMap view = [] := by
  unfold clearingEvents
  split
  · rfl
  · simp [blind]

inductive Passage (production : Production) (playback : Playback) :
    Moment → List Event → Playback → Prop
  | turned {moment : Moment} {next : Playback} : moment.Turns → playback.Turned next →
      Passage production playback moment [] next
  | advanced {step : Step (Except Fault Outcome)} : playback.advance production = step →
      Advanced production playback step →
      Passage production playback (.host .advance) step.events step.next
  | refused {index : Nat} : ¬playback.Accepts production index →
      Passage production playback (.host (.choose index)) [] playback
  | picked {index : Nat} {option : BranchOption} {record : Record}
      {step : Step (Except Fault Outcome)} : playback.phase = .awaitingChoice →
      playback.Accepts production index → playback.pending[index]? = some option →
      production.graph.get? option.address = some record →
      (playback.choose production index).result = step.result →
      Advanced production (playback.moveTo option.target .presenting) step →
      Passage production playback (.host (.choose index))
        (.recorded record :: .optionsCleared :: step.events) step.next
  | strayed {address : Address} : ¬production.graph.contains address = true →
      Passage production playback (.host (.jumpTo address)) [] playback
  | jumped {address : Address} : production.graph.contains address = true →
      Passage production playback (.host (.jumpTo address)) playback.clearingEvents
        (playback.moveTo address (if playback.phase = .ready then .ready else .presenting))
  | restarted : Passage production playback (.host .restart) playback.clearingEvents
      production.opening

theorem choose_passage {production : Production} {playback : Playback}
    (invariant : MenuInvariant production playback) (index : Nat) :
    playback.Passage production (.host (.choose index)) (playback.choose production index).events
      (playback.choose production index).next := by
  have chosen := choose_chosen production playback index
  generalize same : playback.choose production index = step at chosen ⊢
  cases chosen with
  | idle | outOfRange => exact .refused (by simp [Accepts, same])
  | @followed option awaiting found =>
      obtain ⟨_, _, record, present, _⟩ := (invariant.offered awaiting).2.option index option found
      have accepted : playback.Accepts production index :=
        (accepts_iff invariant index).mpr (List.getElem?_eq_some_iff.mp found).1
      rw [follow_of_record present] at same ⊢
      exact .picked awaiting accepted found present (by rw [same]) (advance_advanced production _)

theorem passage {production : Production} {playback : Playback}
    (invariant : MenuInvariant production playback) (moment : Moment) :
    playback.Passage production moment (playback.eventsAt production moment)
      (playback.after production moment) := by
  cases moment with
  | worker => exact .turned .worker playback.work_turned
  | host operation =>
      cases operation with
      | advance => exact .advanced rfl (advance_advanced production playback)
      | choose index => exact choose_passage invariant index
      | restart => exact .restarted
      | tick => exact .turned .tick playback.tick_turned
      | skip => exact .turned .skip playback.skip_turned
      | wait => exact .turned .wait playback.wait_turned
      | jumpTo address =>
          by_cases present : production.graph.contains address = true
          · simp only [eventsAt, after, perform, Step.map, jumpTo_of_contains present]
            exact .jumped present
          · simp only [eventsAt, after, perform, Step.map, jumpTo_of_missing present]
            exact .strayed present

end Playback

namespace Production

theorem reached_concat (production : Production) (moments : List Moment) (moment : Moment) :
    production.reached (moments ++ [moment]) =
      (production.reached moments).after production moment := by
  simp [reached]

theorem events_concat (production : Production) (moments : List Moment) (moment : Moment) :
    production.events (moments ++ [moment]) =
      production.events moments ++ (production.reached moments).eventsAt production moment := by
  simp [events, Playback.eventsOf_append, Playback.eventsOf, reached]

/-- The run lemma for events: a link between those so far and the state, kept by every moment, holds
throughout. -/
theorem linked {production : Production} (link : List Event → Playback → Prop)
    (opening : link [] production.opening)
    (moment : ∀ events playback moment, MenuInvariant production playback → link events playback →
      link (events ++ playback.eventsAt production moment) (playback.after production moment))
    (moments : List Moment) : link (production.events moments) (production.reached moments) := by
  induction moments using List.reverseRecOn with
  | nil => exact opening
  | append_singleton moments last ih =>
      rw [events_concat, reached_concat]
      exact moment _ _ last ((MenuInvariant.kept production).reached moments) ih

end Production
end Playscript
