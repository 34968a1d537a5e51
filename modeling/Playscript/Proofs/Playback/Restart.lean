import Playscript.Proofs.Playback.Observers

/-!
Beginning again. A performance is told beat by beat, with the replies, the events and the states;
the beats after a restart are those of a performance that was newly prepared.
-/

namespace Playscript

structure Beat where
  reply : Option Reply
  events : List Event
  playback : Playback

def Scene.cue (scene : Scene) : Moment × Nat :=
  (scene.moment, scene.observers.length)

namespace Playback

def beat (production : Production) (playback : Playback) : Moment → Beat
  | .host operation =>
    let step := playback.perform production operation
    ⟨some step.result, step.events, step.next⟩
  | .worker => ⟨none, [], playback.work⟩

def beatsBefore (production : Production) (playback : Playback) : List Scene → List Beat
  | [] => []
  | scene :: rest =>
    let beat := playback.beat (production.observedBy scene.observers) scene.moment
    beat :: beat.playback.beatsBefore production rest

variable {production : Production} {playback : Playback} {observers others : List Observer}

theorem beat_playback (production : Production) (playback : Playback) (moment : Moment) :
    (playback.beat production moment).playback = playback.after production moment := by
  cases moment with
  | host operation => rfl
  | worker => rfl

theorem beatsBefore_append (production : Production) (playback : Playback)
    (scenes later : List Scene) :
    playback.beatsBefore production (scenes ++ later) = playback.beatsBefore production scenes ++
      (playback.lastBefore production scenes).beatsBefore production later := by
  induction scenes generalizing playback with
  | nil => rfl
  | cons scene rest ih =>
      have last : playback.lastBefore production (scene :: rest) =
          (playback.after (production.observedBy scene.observers) scene.moment).lastBefore production
            rest := rfl
      rw [List.cons_append, beatsBefore, ih, beatsBefore, beat_playback, last, List.cons_append]

theorem advance_ofCount (same : observers.length = others.length) :
    playback.advance (production.observedBy observers) =
      playback.advance (production.observedBy others) := by
  rw [advance_observedBy, advance_observedBy production playback others, same]

theorem follow_ofCount (same : observers.length = others.length) (option : BranchOption) :
    playback.follow (production.observedBy observers) option =
      playback.follow (production.observedBy others) option := by
  simp only [follow, advance_ofCount same]
  rfl

theorem perform_ofCount (same : observers.length = others.length) (operation : Operation) :
    playback.perform (production.observedBy observers) operation =
      playback.perform (production.observedBy others) operation := by
  cases operation with
  | advance => simp only [perform, advance_ofCount same]
  | choose index => simp only [perform, choose, follow_ofCount same]
  | jumpTo | restart | tick | skip | wait => rfl

theorem beat_ofCount (same : observers.length = others.length) (moment : Moment) :
    playback.beat (production.observedBy observers) moment =
      playback.beat (production.observedBy others) moment := by
  cases moment with
  | host operation => simp only [beat, perform_ofCount same]
  | worker => rfl

theorem beatsBefore_ofCues {scenes later : List Scene}
    (same : scenes.map Scene.cue = later.map Scene.cue) :
    playback.beatsBefore production scenes = playback.beatsBefore production later := by
  induction scenes generalizing playback later with
  | nil =>
      obtain rfl := List.map_eq_nil_iff.mp same.symm
      rfl
  | cons scene rest ih =>
      cases later with
      | nil => contradiction
      | cons other otherRest =>
          obtain ⟨cue, cues⟩ := List.cons.inj same
          obtain ⟨moment, count⟩ := Prod.mk.inj cue
          simp only [beatsBefore, moment, beat_ofCount count]
          rw [ih cues]

theorem beatsBefore_observedBy (production : Production) (playback : Playback)
    (observers : List Observer) (scenes : List Scene) :
    playback.beatsBefore (production.observedBy observers) scenes =
      playback.beatsBefore production scenes := by
  induction scenes generalizing playback with
  | nil => rfl
  | cons scene rest ih =>
      exact congrArg (_ :: ·)
        (ih (playback.beat (production.observedBy scene.observers) scene.moment).playback)

theorem clearingEvents_eq (invariant : MenuInvariant production playback) :
    playback.clearingEvents =
      if playback.phase = .awaitingChoice then [.optionsCleared] else [] := by
  by_cases awaiting : playback.phase = .awaitingChoice
  · have offering := (invariant.offered awaiting).1
    simp [clearingEvents, awaiting, offering]
  · simp [clearingEvents, awaiting, invariant.idle awaiting]

end Playback

theorem MenuInvariant.lastBefore (production : Production) (scenes : List Scene) :
    MenuInvariant production (production.opening.lastBefore production scenes) := by
  obtain ⟨last, _⟩ := production.opening.before_observers production scenes
  rw [last]
  exact ((MenuInvariant.kept (production.observedBy [])).reached _).of_observedBy

theorem Production.prepare_observedBy {graph : Graph} {request : Request} {production : Production}
    (prepared : prepare graph request = .ok production) (observers : List Observer) :
    prepare graph { request with observers := observers } =
      .ok (production.observedBy observers) := by
  obtain ⟨sound, first, lowest, present, rfl⟩ := (prepare_eq_ok_iff _ _ _).mp prepared
  exact (prepare_eq_ok_iff _ _ _).mpr ⟨sound, first, lowest, present, rfl⟩

/-- From a restart on, every reply, event and state is that of a performance newly prepared from the
same request. -/
theorem restart_beginsAnew {graph : Graph} {request : Request} {production fresh : Production}
    {observers : List Observer} (prepared : Production.prepare graph request = .ok production)
    (anew : Production.prepare graph { request with observers := observers } = .ok fresh)
    (before : List Scene) (audience : List Observer) {later scenes : List Scene}
    (same : later.map Scene.cue = scenes.map Scene.cue) :
    let playback := production.opening.lastBefore production before
    let restart : Scene := ⟨audience, .host .restart⟩
    let clearing := if playback.phase = .awaitingChoice then [Event.optionsCleared] else []
    production.opening.beatsBefore production (before ++ restart :: later) =
      production.opening.beatsBefore production before ++
        ⟨some .done, clearing, fresh.opening⟩ :: fresh.opening.beatsBefore fresh scenes := by
  intro playback restart clearing
  obtain rfl : production.observedBy observers = fresh :=
    Except.ok.inj ((Production.prepare_observedBy prepared observers).symm.trans anew)
  have cleared : playback.clearingEvents = clearing :=
    Playback.clearingEvents_eq (MenuInvariant.lastBefore production before)
  have restarted : playback.beat (production.observedBy audience) (.host .restart) =
      ⟨some .done, clearing, production.opening⟩ := by
    rw [← cleared]
    rfl
  rw [Playback.beatsBefore_append, Playback.beatsBefore, restarted, Playback.beatsBefore_ofCues same,
    Playback.beatsBefore_observedBy]
  rfl

theorem restart_atCrossroads :
    let content : Observer := fun _ => .ok ()
    let failing : Observer := fun _ => .error Fault.noSelection.notice
    let fresh := crossroads.observedBy [content]
    let asked : Scene := ⟨[failing], .host .advance⟩
    let again : Scene := ⟨[content], .host .advance⟩
    Production.prepare crossroads.graph { cast := crossroads.cast } = .ok crossroads ∧
    Production.prepare crossroads.graph { cast := crossroads.cast, observers := [content] } =
      .ok fresh ∧
    (crossroads.opening.lastBefore crossroads [asked, asked]).phase = .awaitingChoice ∧
    [asked, asked].map Scene.cue = [again, again].map Scene.cue ∧
    crossroads.opening.beatsBefore crossroads
        ([asked, asked] ++ ⟨[failing], .host .restart⟩ :: [asked, asked]) =
      crossroads.opening.beatsBefore crossroads [asked, asked] ++
        ⟨some .done, [.optionsCleared], fresh.opening⟩ ::
          fresh.opening.beatsBefore fresh [again, again] := by
  intro content failing fresh asked again
  have prepared : Production.prepare crossroads.graph { cast := crossroads.cast } =
      .ok crossroads := rfl
  have anew : Production.prepare crossroads.graph
      { cast := crossroads.cast, observers := [content] } = .ok fresh :=
    Production.prepare_observedBy prepared [content]
  have awaiting : (crossroads.opening.lastBefore crossroads [asked, asked]).phase =
      .awaitingChoice := by
    decide +kernel
  have same : [asked, asked].map Scene.cue = [again, again].map Scene.cue := rfl
  have begun := restart_beginsAnew prepared anew [asked, asked] [failing] same
  simp only [awaiting, if_true] at begun
  exact ⟨prepared, anew, awaiting, same, begun⟩

end Playscript
