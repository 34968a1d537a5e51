import Playscript.Proofs.Playback.Events

/-!
The canvas on which a host draws the line that is shown. A line is drawn once, when it is shown, in
four calls after its record is taken down; nothing else draws, so the canvas goes on to hold the
line that the performance shows.
-/

namespace Playscript

inductive DrawCall where
  | label (label : String)
  | body (body : String)
  | portrait (portrait : Option Portrait)
  | avatar (visible : Bool)
  deriving DecidableEq, Repr

def Event.drawCall? : Event → Option DrawCall
  | .labelSet label => some (.label label)
  | .bodySet body => some (.body body)
  | .portraitSet portrait => some (.portrait portrait)
  | .avatarSet visible => some (.avatar visible)
  | _ => none

def drawCalls (events : List Event) : List DrawCall :=
  events.filterMap Event.drawCall?

structure Canvas where
  label : Option String := none
  body : Option String := none
  portrait : Option (Option Portrait) := none
  avatar : Option Bool := none
  deriving DecidableEq, Repr

namespace Canvas

def draw (canvas : Canvas) : DrawCall → Canvas
  | .label label => { canvas with label := some label }
  | .body body => { canvas with body := some body }
  | .portrait portrait => { canvas with portrait := some portrait }
  | .avatar visible => { canvas with avatar := some visible }

def drawn (canvas : Canvas) (events : List Event) : Canvas :=
  (drawCalls events).foldl draw canvas

def ofView (view : View) : Canvas :=
  ⟨some view.label, some view.body, some view.portrait, some view.avatar⟩

end Canvas

theorem drawCalls_append (events later : List Event) :
    drawCalls (events ++ later) = drawCalls events ++ drawCalls later :=
  List.filterMap_append

theorem Canvas.drawn_append (canvas : Canvas) (events later : List Event) :
    canvas.drawn (events ++ later) = (canvas.drawn events).drawn later := by
  rw [drawn, drawCalls_append, List.foldl_append]
  rfl

theorem Canvas.drawn_of_silent {events : List Event} (silent : drawCalls events = [])
    (canvas : Canvas) : canvas.drawn events = canvas := by
  rw [drawn, silent]
  rfl

theorem Canvas.drawn_line (canvas : Canvas) (record : Record) (view : View) :
    canvas.drawn (.recorded record :: view.rendering) = .ofView view :=
  rfl

namespace Playback

inductive ShowsLine (production : Production) (playback : Playback) : Moment → Address → Prop
  | advanced {address : Address} {kind : LineKind} :
      (playback.advance production).result = .ok (.line address kind) →
      ShowsLine production playback (.host .advance) address
  | picked {index : Nat} {address : Address} {kind : LineKind} :
      (playback.choose production index).result = .ok (.line address kind) →
      ShowsLine production playback (.host (.choose index)) address

/-- The line shown is kept with all that it looks like. Its cursor and its reveal may have moved. -/
structure Keeps (playback next : Playback) : Prop where
  view : next.view = { playback.view with cursor := next.view.cursor }
  reveal : next.reveal = playback.reveal ∨ ∃ before after, playback.reveal = some before ∧
    before.Turn after ∧ next.reveal = some after

inductive Drawing (production : Production) (playback : Playback) (moment : Moment)
    (events : List Event) (next : Playback) : Prop
  | shown {address : Address} {record : Record} {before : List Event} :
      playback.ShowsLine production moment address →
      production.graph.get? address = some record → next.view.shown = some address →
      events = before ++ .recorded record :: next.view.rendering → drawCalls before = [] →
      Drawing production playback moment events next
  | kept : (∀ address, ¬playback.ShowsLine production moment address) → drawCalls events = [] →
      playback.Keeps next → Drawing production playback moment events next
  | cleared : moment = .host .restart → drawCalls events = [] → next = production.opening →
      Drawing production playback moment events next

variable {production : Production} {playback next : Playback}

theorem Keeps.refl (playback : Playback) : playback.Keeps playback :=
  ⟨rfl, .inl rfl⟩

theorem Turned.keeps (turned : playback.Turned next) : playback.Keeps next := by
  rcases turned with rfl | ⟨before, after, revealed, turn, rfl⟩
  · exact .refl next
  · exact ⟨rfl, .inr ⟨before, after, revealed, turn, rfl⟩⟩

theorem drawCalls_observe (production : Production) (view : View) :
    drawCalls (production.observe view) = [] :=
  filterMap_observe (fun _ _ => rfl) production view

theorem Advanced.draws {step : Step (Except Fault Outcome)}
    (advanced : Advanced production playback step) :
    (∃ kind record, step.result = .ok (.line playback.view.cursor kind) ∧
      production.graph.get? playback.view.cursor = some record ∧
      step.next.view.shown = some playback.view.cursor ∧
      step.events = production.observe playback.view ++ .recorded record ::
        step.next.view.rendering) ∨
    (∀ address kind, step.result ≠ .ok (.line address kind)) ∧ drawCalls step.events = [] ∧
      step.next.view = playback.view ∧ step.next.reveal = playback.reveal := by
  have silent := drawCalls_observe production playback.view
  cases advanced with
  | finished | waiting | astray => exact .inr ⟨by simp, rfl, rfl, rfl⟩
  | blocked => exact .inr ⟨by simp, silent, rfl, rfl⟩
  | offered | ended =>
      refine .inr ⟨by simp, ?_, rfl, rfl⟩
      rw [drawCalls_append, silent]
      rfl
  | @shown record target kind view playing found known jumps shows =>
      refine .inl ⟨kind, record, rfl, found, ?_, rfl⟩
      rw [← Graph.address_of_get? found]
      exact shows.shown

theorem ShowsLine.unique {moment : Moment} {address other : Address}
    (shows : playback.ShowsLine production moment address)
    (again : playback.ShowsLine production moment other) : address = other := by
  cases shows with
  | advanced shown =>
      cases again with
      | advanced shownAgain =>
          cases shown.symm.trans shownAgain
          rfl
  | picked shown =>
      cases again with
      | picked shownAgain =>
          cases shown.symm.trans shownAgain
          rfl

theorem Passage.drawing {moment : Moment} {events : List Event}
    (passage : playback.Passage production moment events next) :
    playback.Drawing production moment events next := by
  cases passage with
  | turned turns turned =>
      refine .kept (fun address shows => ?_) rfl turned.keeps
      cases shows <;> cases turns
  | refused refused =>
      refine .kept (fun address shows => ?_) rfl (.refl playback)
      cases shows with
      | picked shown => exact refused (by simp [Accepts, shown])
  | strayed => exact .kept (fun _ shows => by cases shows) rfl (.refl playback)
  | jumped =>
      exact .kept (fun _ shows => by cases shows) (filterMap_clearing rfl playback) ⟨rfl, .inl rfl⟩
  | restarted => exact .cleared rfl (filterMap_clearing rfl playback) rfl
  | advanced same advanced =>
      rcases advanced.draws with ⟨kind, record, shown, found, lit, events⟩ |
        ⟨noLine, silent, view, reveal⟩
      · exact .shown (.advanced (same ▸ shown)) found lit events (drawCalls_observe _ _)
      · refine .kept (fun address shows => ?_) silent ⟨by rw [view], .inl reveal⟩
        cases shows with
        | advanced shown => exact noLine _ _ (same ▸ shown)
  | @picked index option branch step _ _ _ present same advanced =>
      rcases advanced.draws with ⟨kind, record, shown, found, lit, events⟩ |
        ⟨noLine, silent, view, reveal⟩
      · have drawn : .recorded branch :: .optionsCleared :: step.events =
            (.recorded branch :: .optionsCleared :: production.observe
              (playback.moveTo option.target .presenting).view) ++
              .recorded record :: step.next.view.rendering := by
          rw [events]
          rfl
        exact .shown (.picked (same.trans shown)) found lit drawn (drawCalls_observe _ _)
      · refine .kept (fun address shows => ?_) silent ⟨by rw [view]; rfl, .inl reveal⟩
        cases shows with
        | picked shown => exact noLine _ _ (same.symm.trans shown)

theorem Keeps.canvas (keeps : playback.Keeps next) :
    Canvas.ofView next.view = Canvas.ofView playback.view := by
  rw [keeps.view]
  rfl

theorem Keeps.shown (keeps : playback.Keeps next) : next.view.shown = playback.view.shown := by
  rw [keeps.view]

end Playback

theorem Production.events_canvas (production : Production) (moments : List Moment) :
    (production.reached moments).view.shown ≠ none →
    Canvas.drawn {} (production.events moments) = .ofView (production.reached moments).view := by
  apply Production.linked
    (fun events playback => playback.view.shown ≠ none →
      Canvas.drawn {} events = .ofView playback.view)
  · exact fun lit => absurd rfl lit
  · intro events playback moment invariant holds lit
    rw [Canvas.drawn_append]
    cases (Playback.passage invariant moment).drawing with
    | shown _ _ _ drawn silent =>
        rw [drawn, Canvas.drawn_append, Canvas.drawn_of_silent silent, Canvas.drawn_line]
    | kept _ silent keeps =>
        rw [keeps.shown] at lit
        rw [Canvas.drawn_of_silent silent, holds lit, keeps.canvas]
    | cleared _ _ anew => exact absurd (by rw [anew]; rfl) lit

/-- Every line that is shown is drawn whole and once, so the canvas holds what the view has. Nothing
else draws. -/
theorem canvas_holdsLine (production : Production) (moments : List Moment) :
    let playback := production.reached moments
    (∀ moment address, playback.ShowsLine production moment address →
      let view := (playback.after production moment).view
      ∃ before record, production.graph.get? address = some record ∧ view.shown = some address ∧
        playback.eventsAt production moment = before ++ .recorded record ::
          [.labelSet view.label, .bodySet view.body, .portraitSet view.portrait,
            .avatarSet view.avatar] ∧
        drawCalls before = []) ∧
    (∀ moment, (∀ address, ¬playback.ShowsLine production moment address) →
      drawCalls (playback.eventsAt production moment) = []) ∧
    (playback.view.shown ≠ none →
      Canvas.drawn {} (production.events moments) = ⟨some playback.view.label,
        some playback.view.body, some playback.view.portrait, some playback.view.avatar⟩) := by
  intro playback
  have drawings (moment : Moment) := (Playback.passage
    ((MenuInvariant.kept production).reached moments) moment).drawing
  refine ⟨?_, ?_, production.events_canvas moments⟩
  · intro moment address shows view
    cases drawings moment with
    | shown showsHere found lit drawn silent =>
        obtain rfl := showsHere.unique shows
        exact ⟨_, _, found, lit, drawn, silent⟩
    | kept noLine => exact absurd shows (noLine address)
    | cleared restarts =>
        subst restarts
        cases shows
  · intro moment noLine
    cases drawings moment with
    | shown shows => exact absurd shows (noLine _)
    | kept _ silent | cleared _ silent => exact silent

theorem canvas_atCrossroads :
    let asked : List Moment := [.host .advance, .host .tick, .host .advance]
    let playback := crossroads.reached asked
    (crossroads.reached []).ShowsLine crossroads (.host .advance) 1 ∧
    (∃ before record, crossroads.graph.get? 1 = some record ∧
      (crossroads.reached []).eventsAt crossroads (.host .advance) = before ++ .recorded record ::
        [.labelSet "【Aoi】", .bodySet "  Where now?",
          .portraitSet (some ⟨"Aoi", "smile", "aoi/smile.png"⟩), .avatarSet true]) ∧
    drawCalls (playback.eventsAt crossroads (.host (.choose 1))) = [] ∧
    playback.view.shown ≠ none ∧
    Canvas.drawn {} (crossroads.events asked) = ⟨some "【Aoi】", some "  Where now?",
      some (some ⟨"Aoi", "smile", "aoi/smile.png"⟩), some true⟩ := by
  intro asked playback
  have shown : ((crossroads.reached []).advance crossroads).result = .ok (.line 1 .speech) := rfl
  have shows : (crossroads.reached []).ShowsLine crossroads (.host .advance) 1 := .advanced shown
  obtain ⟨draws, _, _⟩ := canvas_holdsLine crossroads []
  obtain ⟨before, record, found, _, events, _⟩ := draws _ 1 shows
  obtain ⟨_, others, holds⟩ := canvas_holdsLine crossroads asked
  have lit : playback.view.shown ≠ none := by decide +kernel
  refine ⟨shows, ⟨before, record, found, events⟩, ?_, lit, holds lit⟩
  apply others
  intro address shows
  cases shows with
  | picked shown => cases shown

end Playscript
