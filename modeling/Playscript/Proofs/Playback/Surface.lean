import Playscript.Proofs.Playback.Events

/-!
The surface on which a host shows menus. It is called to put a menu up and to take it down, and
these calls follow the state of the performance: while a choice is awaited they leave the pending
menu on the surface, and otherwise nothing.
-/

namespace Playscript

inductive SurfaceCall where
  | present (options : List BranchOption)
  | clear
  deriving DecidableEq, Repr

def SurfaceCall.shown : SurfaceCall → Option (List BranchOption)
  | present options => some options
  | clear => none

def Event.surfaceCall? : Event → Option SurfaceCall
  | .optionsPresented options => some (.present options)
  | .optionsCleared => some .clear
  | _ => none

def surfaceCalls (events : List Event) : List SurfaceCall :=
  events.filterMap Event.surfaceCall?

/-- A menu is put up only where there is none, and only one that is there is taken down. -/
inductive SurfaceTurns : Option (List BranchOption) → List SurfaceCall →
    Option (List BranchOption) → Prop
  | rest (shown : Option (List BranchOption)) : SurfaceTurns shown [] shown
  | present {options : List BranchOption} {calls : List SurfaceCall}
      {last : Option (List BranchOption)} : SurfaceTurns (some options) calls last →
      SurfaceTurns none (.present options :: calls) last
  | clear {options : List BranchOption} {calls : List SurfaceCall}
      {last : Option (List BranchOption)} : SurfaceTurns none calls last →
      SurfaceTurns (some options) (.clear :: calls) last

namespace SurfaceTurns

variable {first middle last : Option (List BranchOption)} {calls later : List SurfaceCall}

theorem append (turns : SurfaceTurns first calls middle) (more : SurfaceTurns middle later last) :
    SurfaceTurns first (calls ++ later) last := by
  induction turns with
  | rest => exact more
  | present _ ih => exact .present (ih more)
  | clear _ ih => exact .clear (ih more)

theorem split (turns : SurfaceTurns first (calls ++ later) last) :
    ∃ middle, SurfaceTurns first calls middle ∧ SurfaceTurns middle later last := by
  induction calls generalizing first with
  | nil => exact ⟨first, .rest first, turns⟩
  | cons call rest ih =>
      cases turns with
      | present more =>
          obtain ⟨middle, before, after⟩ := ih more
          exact ⟨middle, .present before, after⟩
      | clear more =>
          obtain ⟨middle, before, after⟩ := ih more
          exact ⟨middle, .clear before, after⟩

theorem last_eq (turns : SurfaceTurns first calls last) :
    last = (calls.getLast?.map SurfaceCall.shown).getD first := by
  induction turns with
  | rest => rfl
  | @present options calls _ _ ih | @clear options calls _ _ ih =>
      rw [ih, List.getLast?_cons]
      cases calls.getLast? <;> rfl

theorem getLast?_iff (turns : SurfaceTurns none calls last) (options : List BranchOption) :
    calls.getLast? = some (.present options) ↔ last = some options := by
  rw [turns.last_eq]
  cases calls.getLast? with
  | none => simp
  | some call => cases call <;> simp [SurfaceCall.shown]

theorem present_iff_even (turns : SurfaceTurns first calls last) {index : Nat} {call : SurfaceCall}
    (found : calls[index]? = some call) :
    (∃ options, call = .present options) ↔ (index % 2 = 0 ↔ first = none) := by
  induction turns generalizing index with
  | rest => simp at found
  | present _ ih | clear _ ih =>
      cases index with
      | zero =>
          obtain rfl := Option.some.inj found
          simp
      | succ index =>
          have parity : (index + 1) % 2 = 0 ↔ ¬index % 2 = 0 := by omega
          rw [ih found, parity]
          simp

end SurfaceTurns

namespace Playback

def menu? (playback : Playback) : Option (List BranchOption) :=
  if playback.phase = .awaitingChoice then some playback.pending else none

variable {production : Production} {playback : Playback}

theorem menu?_eq_some_iff (playback : Playback) (options : List BranchOption) :
    playback.menu? = some options ↔
      playback.phase = .awaitingChoice ∧ options = playback.pending := by
  simp [menu?, eq_comm]

theorem menu?_of_playing (playing : playback.IsPlaying) : playback.menu? = none := by
  rcases playing with ready | presenting
  · simp [menu?, ready]
  · simp [menu?, presenting]

theorem menu?_moveTo (playback : Playback) (address : Address) {phase : Phase}
    (calm : phase ≠ .awaitingChoice) : (playback.moveTo address phase).menu? = none := by
  simp [menu?, moveTo, calm]

theorem surfaceCalls_observe (production : Production) (view : View) :
    surfaceCalls (production.observe view) = [] :=
  filterMap_observe (fun _ _ => rfl) production view

theorem surfaceCalls_append (events later : List Event) :
    surfaceCalls (events ++ later) = surfaceCalls events ++ surfaceCalls later :=
  List.filterMap_append

theorem Advanced.surfaceTurns {step : Step (Except Fault Outcome)}
    (advanced : Advanced production playback step) :
    SurfaceTurns playback.menu? (surfaceCalls step.events) step.next.menu? := by
  cases advanced with
  | finished | waiting | astray => exact .rest _
  | blocked =>
      rw [surfaceCalls_observe]
      exact .rest _
  | shown playing =>
      rw [surfaceCalls_append, surfaceCalls_observe, menu?_of_playing playing]
      exact .rest none
  | offered playing =>
      rw [surfaceCalls_append, surfaceCalls_observe, menu?_of_playing playing]
      exact .present (.rest _)
  | ended playing =>
      rw [surfaceCalls_append, surfaceCalls_observe, menu?_of_playing playing]
      exact .rest none

theorem clearing_surfaceTurns (invariant : MenuInvariant production playback) :
    SurfaceTurns playback.menu? (surfaceCalls playback.clearingEvents) none := by
  by_cases awaiting : playback.phase = .awaitingChoice
  · have offering := (invariant.offered awaiting).1
    simp only [clearingEvents, menu?, awaiting, List.isEmpty_iff, offering, if_true, if_false]
    exact .clear (.rest none)
  · simp only [clearingEvents, menu?, awaiting, invariant.idle awaiting, List.isEmpty_nil, if_true,
      if_false]
    exact .rest none

theorem Turned.menu? {next : Playback} (turned : playback.Turned next) :
    next.menu? = playback.menu? := by
  rw [Playback.menu?, Playback.menu?, turned.phase, turned.pending]

theorem Passage.surfaceTurns (invariant : MenuInvariant production playback) {moment : Moment}
    {events : List Event} {next : Playback}
    (passage : playback.Passage production moment events next) :
    SurfaceTurns playback.menu? (surfaceCalls events) next.menu? := by
  cases passage with
  | turned _ turned =>
      rw [turned.menu?]
      exact .rest _
  | refused | strayed => exact .rest _
  | advanced _ advanced => exact advanced.surfaceTurns
  | @picked _ option _ _ awaiting _ _ _ _ advanced =>
      have onward := advanced.surfaceTurns
      rw [menu?_moveTo playback option.target (by decide)] at onward
      rw [menu?, if_pos awaiting]
      exact .clear onward
  | @jumped address =>
      have calm : (if playback.phase = .ready then Phase.ready else .presenting) ≠
          .awaitingChoice := by
        split <;> decide
      rw [menu?_moveTo playback address calm]
      exact clearing_surfaceTurns invariant
  | restarted => exact clearing_surfaceTurns invariant

end Playback

theorem Production.events_surfaceTurns (production : Production) (moments : List Moment) :
    SurfaceTurns none (surfaceCalls (production.events moments))
      (production.reached moments).menu? := by
  apply Production.linked
    (fun events playback => SurfaceTurns none (surfaceCalls events) playback.menu?) (.rest none)
  intro events playback moment invariant turns
  rw [Playback.surfaceCalls_append]
  exact turns.append ((Playback.passage invariant moment).surfaceTurns invariant)

/-- Calls that put a menu up and calls that take it down alternate, and what is up is the pending
menu. -/
theorem surface_mirrorsMenu (production : Production) (moments : List Moment) :
    let playback := production.reached moments
    let calls := surfaceCalls (production.events moments)
    (∀ index call, calls[index]? = some call →
      ((∃ options, call = .present options) ↔ index % 2 = 0)) ∧
    (∀ before after, calls = before ++ .clear :: after →
      ∃ options, before.getLast? = some (.present options)) ∧
    ((∃ options, calls.getLast? = some (.present options)) ↔ playback.phase = .awaitingChoice) ∧
    ∀ options, calls.getLast? = some (.present options) → options = playback.pending := by
  intro playback calls
  have turns : SurfaceTurns none calls playback.menu? := production.events_surfaceTurns moments
  have shows (options : List BranchOption) : calls.getLast? = some (.present options) ↔
      playback.phase = .awaitingChoice ∧ options = playback.pending :=
    (turns.getLast?_iff options).trans (playback.menu?_eq_some_iff options)
  refine ⟨?_, ?_, ?_, ?_⟩
  · intro index call found
    simpa using turns.present_iff_even found
  · intro before after cleared
    rw [cleared] at turns
    obtain ⟨shown, put, taken⟩ := turns.split
    cases taken with
    | @clear options => exact ⟨options, (put.getLast?_iff options).mpr rfl⟩
  · simp only [shows, exists_and_left, exists_eq, and_true]
  · exact fun options last => ((shows options).mp last).2

theorem surface_atCrossroads :
    let offering : List Moment := [.host .advance, .host .advance, .host .advance]
    let back : List Moment := offering ++ [.host (.choose 1), .host (.jumpTo 2), .host .advance]
    let menu : List BranchOption := [⟨0, 2, "Left", 4⟩, ⟨1, 3, "Right", 9⟩]
    surfaceCalls (crossroads.events back) = [.present menu, .clear, .present menu] ∧
    (crossroads.reached back).phase = .awaitingChoice ∧
    (crossroads.reached back).pending = menu := by
  intro offering back menu
  obtain ⟨_, _, awaiting, pending⟩ := surface_mirrorsMenu crossroads back
  have calls : surfaceCalls (crossroads.events back) = [.present menu, .clear, .present menu] := by
    decide +kernel
  rw [calls] at awaiting pending
  exact ⟨calls, awaiting.mp ⟨menu, rfl⟩, (pending menu rfl).symm⟩

end Playscript
