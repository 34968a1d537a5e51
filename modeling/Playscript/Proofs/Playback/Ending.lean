import Playscript.Proofs.Playback.Events

/-!
The phases of a performance and its end. What a moment makes of the phase is told once, in
`Passage.edge`; that the end is final, and that it is signalled once each time it is reached,
follows from there.
-/

namespace Playscript

def Event.ending? : Event → Option Record
  | .terminated record => some record
  | _ => none

def endingsOf (events : List Event) : List Record :=
  events.filterMap Event.ending?

namespace Outcome

def phase : Outcome → Phase
  | .line .. => .presenting
  | .choices _ => .awaitingChoice
  | .ended => .terminated

theorem phase_ne_ready (outcome : Outcome) : outcome.phase ≠ .ready := by
  cases outcome <;> exact Phase.noConfusion

end Outcome

namespace Playback

inductive Reopens (production : Production) (playback : Playback) : Moment → Phase → Prop
  | restarted : Reopens production playback (.host .restart) .ready
  | jumped {address : Address} : (playback.jumpTo production address).result = .ok () →
      Reopens production playback (.host (.jumpTo address)) .presenting

inductive Edge (production : Production) (playback : Playback) : Moment → Phase → Prop
  | advanced {outcome : Outcome} : playback.IsPlaying →
      (playback.advance production).result = .ok outcome →
      Edge production playback (.host .advance) outcome.phase
  | picked {index : Nat} {phase : Phase} : playback.phase = .awaitingChoice →
      playback.Accepts production index → phase ≠ .ready →
      Edge production playback (.host (.choose index)) phase
  | reopened {moment : Moment} {phase : Phase} : playback.phase ≠ .ready →
      playback.Reopens production moment phase → Edge production playback moment phase

/-- The end is reached and signalled once, at the record at the cursor. The line shown last stays,
and so does its reveal. -/
structure Enters (production : Production) (playback : Playback) (moment : Moment)
    (events : List Event) (next : Playback) (record : Record) : Prop where
  signalled : endingsOf events = [record]
  here : production.graph.get? next.view.cursor = some record
  ends : production.kindOf? record = some .terminate
  cursor : (moment = .host .advance ∧ next.view.cursor = playback.view.cursor) ∨
    ∃ index option, moment = .host (.choose index) ∧ playback.pending[index]? = some option ∧
      next.view.cursor = option.target
  view : next.view = { playback.view with cursor := next.view.cursor }
  reveal : next.reveal = playback.reveal

structure PhaseLaws (production : Production) (playback : Playback) : Prop where
  final : playback.phase = .terminated →
    playback.advance production = ⟨.ok .ended, [], playback⟩ ∧
    ∀ index, playback.choose production index = ⟨.error .noPendingChoice, [], playback⟩
  leavesEnd (moment : Moment) (phase : Phase) : playback.phase = .terminated →
    phase ≠ .terminated →
    ((playback.after production moment).phase = phase ↔ playback.Reopens production moment phase)
  entersEnd (moment : Moment) : playback.phase ≠ .terminated →
    (playback.after production moment).phase = .terminated →
    ∃ record, playback.Enters production moment (playback.eventsAt production moment)
      (playback.after production moment) record
  silent (moment : Moment) :
    playback.phase = .terminated ∨ (playback.after production moment).phase ≠ .terminated →
    endingsOf (playback.eventsAt production moment) = []
  leavesReady (moment : Moment) : playback.phase = .ready →
    ((playback.after production moment).phase ≠ .ready ↔
      moment = .host .advance ∧ ∃ outcome, (playback.advance production).result = .ok outcome)
  entersReady (moment : Moment) : playback.phase ≠ .ready →
    ((playback.after production moment).phase = .ready ↔ moment = .host .restart)
  leavesLine (moment : Moment) : playback.phase = .presenting →
    (playback.after production moment).phase ≠ .presenting →
    moment = .host .restart ∨
      moment = .host .advance ∧ ∃ outcome, (playback.advance production).result = .ok outcome
  leavesMenu (moment : Moment) : playback.phase = .awaitingChoice →
    (playback.after production moment).phase ≠ .awaitingChoice →
    (∃ index, moment = .host (.choose index) ∧ playback.Accepts production index) ∨
      playback.Reopens production moment (playback.after production moment).phase

end Playback

inductive Production.Endings (production : Production) : List Moment → List Record → Prop
  | opening : Endings production [] []
  | entered {moments : List Moment} {records : List Record} {moment : Moment} {record : Record} :
      Endings production moments records → (production.reached moments).phase ≠ .terminated →
      (production.reached (moments ++ [moment])).phase = .terminated →
      production.graph.get? (production.reached (moments ++ [moment])).view.cursor = some record →
      production.kindOf? record = some .terminate →
      Endings production (moments ++ [moment]) (records ++ [record])
  | passed {moments : List Moment} {records : List Record} {moment : Moment} :
      Endings production moments records →
      (production.reached moments).phase = .terminated ∨
        (production.reached (moments ++ [moment])).phase ≠ .terminated →
      Endings production (moments ++ [moment]) records

namespace Playback

variable {production : Production} {playback next : Playback}

theorem endingsOf_observe (production : Production) (view : View) :
    endingsOf (production.observe view) = [] :=
  filterMap_observe (fun _ _ => rfl) production view

theorem endingsOf_append (events later : List Event) :
    endingsOf (events ++ later) = endingsOf events ++ endingsOf later :=
  List.filterMap_append

theorem jumpTo_ok_iff (production : Production) (playback : Playback) (address : Address) :
    (playback.jumpTo production address).result = .ok () ↔
      production.graph.contains address = true := by
  by_cases present : production.graph.contains address = true
  · simp [jumpTo_of_contains present, present]
  · simp [jumpTo_of_missing present, present]

section Advance

variable {step : Step (Except Fault Outcome)}

theorem Advanced.phase (advanced : Advanced production playback step) :
    step.next = playback ∨
      playback.IsPlaying ∧
        ∃ outcome, step.result = .ok outcome ∧ step.next.phase = outcome.phase := by
  cases advanced with
  | finished | waiting | astray | blocked => exact .inl rfl
  | shown playing | offered playing | ended playing => exact .inr ⟨playing, _, rfl, rfl⟩

theorem Advanced.phase_of_ok (advanced : Advanced production playback step)
    {outcome : Outcome} (done : step.result = .ok outcome) : step.next.phase = outcome.phase := by
  cases advanced with
  | astray | blocked => cases done
  | finished phase | waiting phase =>
      cases done
      exact phase
  | shown | offered | ended =>
      cases done
      rfl

theorem Advanced.enters (advanced : Advanced production playback step)
    (before : playback.phase ≠ .terminated) (after : step.next.phase = .terminated) :
    ∃ record, endingsOf step.events = [record] ∧
      production.graph.get? playback.view.cursor = some record ∧
      production.kindOf? record = some .terminate ∧
      step.next = { playback with phase := .terminated } := by
  cases advanced with
  | finished | waiting | astray | blocked => exact absurd after before
  | shown | offered => cases after
  | @ended record _ found ends =>
      refine ⟨record, ?_, found, ends, rfl⟩
      rw [endingsOf_append, endingsOf_observe]
      rfl

theorem Advanced.silent (advanced : Advanced production playback step)
    (elsewhere : playback.phase = .terminated ∨ step.next.phase ≠ .terminated) :
    endingsOf step.events = [] := by
  cases advanced with
  | finished | waiting | astray => rfl
  | blocked => exact endingsOf_observe production playback.view
  | shown | offered =>
      rw [endingsOf_append, endingsOf_observe]
      rfl
  | ended playing =>
      rcases elsewhere with ended | other
      · simp [IsPlaying, ended] at playing
      · exact absurd rfl other

end Advance

namespace Passage

variable {moment : Moment} {events : List Event}

theorem edge (passage : playback.Passage production moment events next) :
    next.phase = playback.phase ∨ playback.Edge production moment next.phase := by
  cases passage with
  | turned _ turned => exact .inl turned.phase
  | refused | strayed => exact .inl rfl
  | advanced same advanced =>
      rcases advanced.phase with still | ⟨playing, outcome, done, phase⟩
      · exact .inl (by rw [still])
      · rw [phase]
        exact .inr (.advanced playing (same ▸ done))
  | picked awaiting accepted _ _ _ advanced =>
      refine .inr (.picked awaiting accepted ?_)
      rcases advanced.phase with still | ⟨_, outcome, _, phase⟩
      · rw [still]
        exact Phase.noConfusion
      · rw [phase]
        exact outcome.phase_ne_ready
  | jumped present =>
      by_cases ready : playback.phase = .ready
      · exact .inl (by simp [moveTo, ready])
      · have landed := Reopens.jumped ((jumpTo_ok_iff production playback _).mpr present)
        simp only [moveTo, if_neg ready]
        exact .inr (.reopened ready landed)
  | restarted =>
      by_cases ready : playback.phase = .ready
      · exact .inl ready.symm
      · exact .inr (.reopened ready .restarted)

theorem enters (passage : playback.Passage production moment events next)
    (before : playback.phase ≠ .terminated) (after : next.phase = .terminated) :
    ∃ record, playback.Enters production moment events next record := by
  cases passage with
  | turned _ turned => exact absurd (turned.phase.symm.trans after) before
  | refused | strayed => exact absurd after before
  | jumped =>
      simp only [moveTo] at after
      split at after <;> cases after
  | restarted => cases after
  | advanced _ advanced =>
      obtain ⟨record, signalled, found, ends, same⟩ := advanced.enters before after
      exact ⟨record, signalled, by rw [same]; exact found, ends, .inl ⟨rfl, by rw [same]⟩,
        by rw [same], by rw [same]⟩
  | @picked index option _ step _ _ listed _ _ advanced =>
      obtain ⟨record, signalled, found, ends, same⟩ := advanced.enters Phase.noConfusion after
      exact ⟨record, signalled, by rw [same]; exact found, ends,
        .inr ⟨index, option, rfl, listed, by rw [same]; rfl⟩, by rw [same]; rfl, by rw [same]; rfl⟩

theorem silent (passage : playback.Passage production moment events next)
    (elsewhere : playback.phase = .terminated ∨ next.phase ≠ .terminated) :
    endingsOf events = [] := by
  cases passage with
  | turned | refused | strayed => rfl
  | jumped | restarted => exact filterMap_clearing rfl playback
  | advanced _ advanced => exact advanced.silent elsewhere
  | picked awaiting _ _ _ _ advanced =>
      refine advanced.silent (.inr ?_)
      rcases elsewhere with ended | other
      · rw [awaiting] at ended
        cases ended
      · exact other

end Passage

theorem after_edge (invariant : MenuInvariant production playback) {moment : Moment}
    (changed : (playback.after production moment).phase ≠ playback.phase) :
    playback.Edge production moment (playback.after production moment).phase :=
  (passage invariant moment).edge.resolve_left changed

theorem after_end (invariant : MenuInvariant production playback) {moment : Moment}
    (ended : playback.phase = .terminated)
    (left : (playback.after production moment).phase ≠ .terminated) :
    playback.Reopens production moment (playback.after production moment).phase := by
  have edge := after_edge invariant (ended ▸ left)
  generalize (playback.after production moment).phase = phase at edge
  cases edge with
  | advanced playing => simp [IsPlaying, ended] at playing
  | picked awaiting => cases ended.symm.trans awaiting
  | reopened _ reopens => exact reopens

theorem Reopens.phase_eq {moment : Moment} {phase : Phase}
    (reopens : playback.Reopens production moment phase) (notReady : playback.phase ≠ .ready) :
    (playback.after production moment).phase = phase := by
  cases reopens with
  | restarted => rfl
  | jumped moved =>
      have present := (jumpTo_ok_iff production playback _).mp moved
      simp only [after, perform, Step.map, jumpTo_of_contains present, moveTo, if_neg notReady]

theorem phaseLaws (invariant : MenuInvariant production playback) :
    playback.PhaseLaws production := by
  constructor
  case final =>
    intro ended
    constructor
    · simp only [advance, ended]
    · intro index
      simp [choose, ended, failedStep]
  case leavesEnd =>
    intro moment phase ended other
    constructor
    · rintro rfl
      exact after_end invariant ended other
    · intro reopens
      exact reopens.phase_eq (by simp [ended])
  case entersEnd => exact fun moment before after => (passage invariant moment).enters before after
  case silent => exact fun moment elsewhere => (passage invariant moment).silent elsewhere
  case leavesReady =>
    intro moment ready
    constructor
    · intro left
      have edge := after_edge invariant (ready ▸ left)
      generalize (playback.after production moment).phase = phase at edge
      cases edge with
      | advanced _ done => exact ⟨rfl, _, done⟩
      | picked awaiting => cases ready.symm.trans awaiting
      | reopened notReady => exact absurd ready notReady
    · rintro ⟨rfl, outcome, done⟩
      have phase : (playback.after production (.host .advance)).phase = outcome.phase :=
        (advance_advanced production playback).phase_of_ok done
      rw [phase]
      exact outcome.phase_ne_ready
  case entersReady =>
    intro moment other
    constructor
    · intro ready
      have edge := after_edge invariant (ready ▸ Ne.symm other)
      generalize (playback.after production moment).phase = phase at edge ready
      cases edge with
      | @advanced outcome => exact absurd ready outcome.phase_ne_ready
      | picked _ _ notReady => exact absurd ready notReady
      | reopened _ reopens =>
          cases reopens with
          | restarted => rfl
          | jumped => cases ready
    · rintro rfl
      rfl
  case leavesLine =>
    intro moment presenting left
    have edge := after_edge invariant (presenting ▸ left)
    generalize (playback.after production moment).phase = phase at edge left
    cases edge with
    | advanced _ done => exact .inr ⟨rfl, _, done⟩
    | picked awaiting => cases presenting.symm.trans awaiting
    | reopened _ reopens =>
        cases reopens with
        | restarted => exact .inl rfl
        | jumped => exact absurd rfl left
  case leavesMenu =>
    intro moment awaiting left
    have edge := after_edge invariant (awaiting ▸ left)
    generalize (playback.after production moment).phase = phase at edge
    cases edge with
    | advanced playing => simp [IsPlaying, awaiting] at playing
    | @picked index _ _ accepted => exact .inl ⟨index, rfl, accepted⟩
    | reopened _ reopens => exact .inr reopens

theorem reopened_between (invariant : MenuInvariant production playback)
    (ended : playback.phase = .terminated) {moments : List Moment}
    (left : (moments.foldl (Playback.after production) playback).phase ≠ .terminated) :
    ∃ earlier moment later phase, moments = earlier ++ moment :: later ∧
      (earlier.foldl (Playback.after production) playback).Reopens production moment phase := by
  induction moments generalizing playback with
  | nil => exact absurd ended left
  | cons moment rest ih =>
      by_cases still : (playback.after production moment).phase = .terminated
      · obtain ⟨earlier, reopening, later, phase, rfl, reopens⟩ :=
          ih ((MenuInvariant.kept production).after moment invariant) still left
        exact ⟨moment :: earlier, reopening, later, phase, rfl, reopens⟩
      · exact ⟨[], moment, rest, _, rfl, after_end invariant ended still⟩

end Playback

namespace Production

theorem events_endings (production : Production) (moments : List Moment) :
    production.Endings moments (endingsOf (production.events moments)) := by
  induction moments using List.reverseRecOn with
  | nil => exact .opening
  | append_singleton moments last ih =>
      have passage := Playback.passage ((MenuInvariant.kept production).reached moments) last
      rw [events_concat, Playback.endingsOf_append]
      by_cases ended : (production.reached moments).phase = .terminated
      · rw [passage.silent (.inl ended), List.append_nil]
        exact .passed ih (.inl ended)
      · by_cases ends : (production.reached (moments ++ [last])).phase = .terminated
        · have reached := ends
          rw [reached_concat] at reached
          obtain ⟨record, enters⟩ := passage.enters ended reached
          rw [enters.signalled]
          refine .entered ih ended ends ?_ enters.ends
          rw [reached_concat]
          exact enters.here
        · have elsewhere := ends
          rw [reached_concat] at elsewhere
          rw [passage.silent (.inr elsewhere), List.append_nil]
          exact .passed ih (.inr ends)

end Production

/-- The end is signalled once each time it is reached, and only a restart or a jump leads away from
it. -/
theorem ending_signalledOnce (production : Production) (moments : List Moment) :
    (production.reached moments).PhaseLaws production ∧
    production.Endings moments (endingsOf (production.events moments)) ∧
    ∀ before first between second later, moments = before ++ first :: between ++ second :: later →
      endingsOf ((production.reached before).eventsAt production first) ≠ [] →
      endingsOf ((production.reached (before ++ first :: between)).eventsAt production second) ≠
        [] →
      ∃ earlier moment rest phase, between = earlier ++ moment :: rest ∧
        (production.reached (before ++ first :: earlier)).Reopens production moment phase := by
  have invariant (moments : List Moment) := (MenuInvariant.kept production).reached moments
  refine ⟨Playback.phaseLaws (invariant moments), production.events_endings moments, ?_⟩
  rintro before first between second later rfl signalled again
  have split (some : List Moment) : production.reached (before ++ first :: some) =
      some.foldl (Playback.after production) (production.reached (before ++ [first])) := by
    rw [List.append_cons, Production.reached, Production.reached, List.foldl_append]
  have ended : (production.reached (before ++ [first])).phase = .terminated := by
    rw [Production.reached_concat]
    refine Decidable.of_not_not fun elsewhere => signalled ?_
    exact (Playback.passage (invariant before) first).silent (.inr elsewhere)
  have left : (production.reached (before ++ first :: between)).phase ≠ .terminated := by
    intro ended
    exact again ((Playback.passage (invariant _) second).silent (.inl ended))
  rw [split] at left
  obtain ⟨earlier, moment, rest, phase, rfl, reopens⟩ :=
    Playback.reopened_between (invariant _) ended left
  exact ⟨earlier, moment, rest, phase, rfl, by rw [split]; exact reopens⟩

theorem ending_atCrossroads :
    let toEnd : List Moment := [.host .advance, .host .advance, .host (.choose 0)]
    let twice : List Moment := toEnd ++ [.host .advance, .host (.jumpTo 4), .host .advance]
    let curtain : Record := ⟨4, "END", "", "", none, "default"⟩
    endingsOf (crossroads.events twice) = [curtain, curtain] ∧
    (crossroads.reached toEnd).phase = .terminated ∧
    ((crossroads.reached toEnd).choose crossroads 0).next = crossroads.reached toEnd ∧
    (∃ record, (crossroads.reached (toEnd.take 2)).Enters crossroads (.host (.choose 0))
      ((crossroads.reached (toEnd.take 2)).eventsAt crossroads (.host (.choose 0)))
      (crossroads.reached toEnd) record) ∧
    ∃ earlier moment rest phase,
      [.host .advance, .host (.jumpTo 4)] = earlier ++ moment :: rest ∧
      (crossroads.reached (toEnd ++ earlier)).Reopens crossroads moment phase := by
  intro toEnd twice curtain
  have ended : (crossroads.reached toEnd).phase = .terminated := by decide +kernel
  obtain ⟨atEnd, _⟩ := ending_signalledOnce crossroads toEnd
  obtain ⟨atMenu, _⟩ := ending_signalledOnce crossroads (toEnd.take 2)
  obtain ⟨_, _, between⟩ := ending_signalledOnce crossroads twice
  refine ⟨by decide +kernel, ended, ?_, ?_, ?_⟩
  · rw [(atEnd.final ended).2 0]
  · exact atMenu.entersEnd (.host (.choose 0)) (by decide +kernel) ended
  · exact between (toEnd.take 2) (.host (.choose 0)) [.host .advance, .host (.jumpTo 4)]
      (.host .advance) [] rfl (by decide +kernel) (by decide +kernel)

end Playscript
