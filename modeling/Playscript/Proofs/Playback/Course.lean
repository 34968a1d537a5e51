import Playscript.Player.Session
import Playscript.Proofs.Playback.Menu
import Playscript.Proofs.Table.Playable

/-!
Where the cursor goes in a script that was read from a text. It never leaves the addresses that the
script mentions, and the one thing that can stop it is an address without a record.
-/

namespace Playscript

namespace Production

def Playable (production : Production) : Prop :=
  ∀ record ∈ production.graph.records, production.config.CanPlay record

theorem ofText_eq_ok_iff (text : String) (request : Request) (production : Production) :
    ofText text request = .ok production ↔ ∃ report,
      Table.load request.config text = .ok report ∧
        prepare report.graph request = .ok production := by
  rw [ofText, bind_eq_ok_iff]

theorem ofText_playable {text : String} {request : Request} {production : Production}
    (made : ofText text request = .ok production) : production.Playable := by
  obtain ⟨report, loaded, prepared⟩ := (ofText_eq_ok_iff text request production).mp made
  obtain ⟨_, _, _, _, rfl⟩ := (prepare_eq_ok_iff _ _ _).mp prepared
  exact Table.load_canPlay loaded

theorem ofText_entry {text : String} {request : Request} {production : Production}
    (made : ofText text request = .ok production) :
    production.graph.contains production.entry = true := by
  obtain ⟨report, _, prepared⟩ := (ofText_eq_ok_iff text request production).mp made
  obtain ⟨_, _, _, present, rfl⟩ := (prepare_eq_ok_iff _ _ _).mp prepared
  exact present

theorem Playable.jump {production : Production} (playable : production.Playable) {record : Record}
    (member : record ∈ production.graph.records) {kind : LineKind}
    (known : production.kindOf? record = some kind) (goesOn : kind ≠ .terminate) :
    record.jump ≠ none := by
  obtain ⟨other, same, ends | ⟨target, jump⟩⟩ := playable record member
  · rw [kindOf?, same, ends] at known
    exact absurd (Option.some.inj known).symm goesOn
  · simp [jump]

theorem mem_branches {production : Production} {cursor : Address} {record : Record}
    (member : record ∈ production.branches cursor) :
    record ∈ production.graph.records ∧ production.kindOf? record = some .branch := by
  obtain ⟨index, listed⟩ := List.mem_iff_getElem?.mp member
  obtain ⟨_, present, branch⟩ := (production.branches_run cursor).getElem? rfl listed
  exact ⟨Graph.mem_of_get? present, branch⟩

theorem Playable.not_blocked {production : Production} (playable : production.Playable)
    {record : Record} (member : record ∈ production.graph.records) (fault : Fault) :
    ¬production.Blocked record fault := by
  intro blocked
  cases blocked with
  | tag unknown =>
      obtain ⟨kind, known, _⟩ := playable record member
      rw [kindOf?, known] at unknown
      simp at unknown
  | line known isLine missing =>
      refine playable.jump member known ?_ missing
      rcases isLine with rfl | rfl <;> decide
  | menu _ failed =>
      -- The record at fault is another branch of the same menu, and is in the graph as well.
      obtain ⟨branch, listed, missing, _⟩ := branchOptions_fault failed
      obtain ⟨inGraph, isBranch⟩ := mem_branches listed
      exact playable.jump inGraph isBranch (by decide) missing

end Production

structure CourseInvariant (production : Production) (playback : Playback) : Prop where
  cursor : production.graph.Mentions playback.view.cursor
  targets : ∀ option ∈ playback.pending, production.graph.Mentions option.target

namespace CourseInvariant

variable {production : Production} {playback : Playback}

theorem of_collected {cursor : Address} {options : List BranchOption}
    (collected : Production.branchOptions 0 (production.branches cursor) = .ok options) :
    ∀ option ∈ options, production.graph.Mentions option.target := by
  intro option member
  obtain ⟨index, listed⟩ := List.mem_iff_getElem?.mp member
  obtain ⟨_, _, record, present, _, _, jump⟩ :=
    (Production.menuAt_of_collected collected).option index option listed
  exact Graph.mentions_jump (Graph.mem_of_get? present) jump

theorem advance (invariant : CourseInvariant production playback) :
    CourseInvariant production (playback.advance production).next := by
  have advanced := Playback.advance_advanced production playback
  generalize playback.advance production = step at advanced ⊢
  cases advanced with
  | finished | waiting | astray | blocked | ended => exact ⟨invariant.cursor, invariant.targets⟩
  | offered _ _ _ collected => exact ⟨invariant.cursor, of_collected collected⟩
  | shown _ found _ jump shows =>
      refine ⟨?_, invariant.targets⟩
      have mentioned := Graph.mentions_jump (Graph.mem_of_get? found) jump
      rw [← shows.cursor] at mentioned
      exact mentioned

theorem kept (production : Production)
    (entry : production.graph.contains production.entry = true) :
    Kept production (CourseInvariant production) where
  opening := ⟨Or.inl entry, by simp [Production.opening]⟩
  advance _ invariant := invariant.advance
  follow _ option invariant _ member := ⟨invariant.targets option member, by simp [Playback.moveTo]⟩
  jump _ _ _ _ present _ := ⟨Or.inl present, by simp [Playback.moveTo]⟩
  reveal _ _ _ invariant _ _ := ⟨invariant.cursor, invariant.targets⟩

end CourseInvariant

namespace Playback

theorem advance_fault_iff {production : Production} (playable : production.Playable)
    (playback : Playback) (fault : Fault) :
    (playback.advance production).result = .error fault ↔
      playback.IsPlaying ∧ production.graph.contains playback.view.cursor = false ∧
        fault = .addressMissing playback.view.cursor := by
  constructor
  · intro failed
    rcases advance_fault failed with ⟨playing, missing, named⟩ | ⟨record, _, found, blocked⟩
    · exact ⟨playing, by simp [Graph.contains, missing], named⟩
    · exact absurd blocked (playable.not_blocked (Graph.mem_of_get? found) fault)
  · rintro ⟨playing, missing, rfl⟩
    have absent : production.graph.get? playback.view.cursor = none :=
      Graph.get?_eq_none_of_not_contains (by simp [missing])
    rw [advance_of_missing playing absent]
    rfl

theorem advance_succeeds {production : Production} (playable : production.Playable)
    {playback : Playback} (present : production.graph.contains playback.view.cursor = true) :
    ∃ outcome, (playback.advance production).result = .ok outcome := by
  cases result : (playback.advance production).result with
  | ok outcome => exact ⟨outcome, rfl⟩
  | error fault =>
      obtain ⟨_, missing, _⟩ := (advance_fault_iff playable playback fault).mp result
      rw [present] at missing
      contradiction

end Playback

/-- The cursor is at an address of the script or at the target of a dangling jump, and only there an
advance fails. -/
theorem cursor_staysOnCourse {text : String} {request : Request} {production : Production}
    (made : Production.ofText text request = .ok production) (moments : List Moment) :
    let playback := production.reached moments
    (production.graph.contains playback.view.cursor = true ∨
      ∃ source, (source, playback.view.cursor) ∈ production.graph.danglingJumps) ∧
    (∀ fault, (playback.advance production).result = .error fault ↔
      (playback.phase = .ready ∨ playback.phase = .presenting) ∧
      production.graph.contains playback.view.cursor = false ∧
      fault = .addressMissing playback.view.cursor) ∧
    (production.graph.danglingJumps = [] →
      (∃ outcome, (playback.advance production).result = .ok outcome) ∧
      ∀ index, index < playback.pending.length →
        ∃ outcome, (playback.choose production index).result = .ok outcome) := by
  intro playback
  have playable := Production.ofText_playable made
  have course := CourseInvariant.kept production (Production.ofText_entry made)
  have invariant : CourseInvariant production playback := course.reached moments
  have menu : MenuInvariant production playback := (MenuInvariant.kept production).reached moments
  refine ⟨invariant.cursor, Playback.advance_fault_iff playable playback, ?_⟩
  intro sound
  refine ⟨Playback.advance_succeeds playable (invariant.cursor.contains sound), ?_⟩
  -- A choice is an advance from the target, so the target is what has to be in the graph.
  intro index inRange
  have found : playback.pending[index]? = some playback.pending[index] :=
    List.getElem?_eq_getElem inRange
  have offering : playback.pending ≠ [] := List.ne_nil_of_length_pos (by omega)
  have awaiting := menu.awaiting_iff.mpr offering
  rw [Playback.choose_of_option awaiting found]
  have moved := course.follow playback _ invariant awaiting (List.getElem_mem inRange)
  exact Playback.advance_succeeds playable (moved.cursor.contains sound)

def crossroadsText (target : String) : String :=
  "at,tag,who,what,next,look\n1,w,Aoi,Where now?,2,smile\n2,O,,Left,4\n3,o,,Right," ++ target ++
    "\n4,END,,,"

def mendedCrossroads : Production :=
  { crossroads with graph := crossroads.graph.insert ⟨3, "O", "", "Right", some 4, "default"⟩ }

theorem cursor_atCrossroads :
    let stuck := crossroads.reached [.host .advance, .host .advance, .host (.choose 1)]
    let offering := mendedCrossroads.reached [.host .advance, .host .advance]
    Production.ofText (crossroadsText "9") { cast := crossroads.cast } = .ok crossroads ∧
    (∃ source, (source, stuck.view.cursor) ∈ crossroads.graph.danglingJumps) ∧
    (stuck.advance crossroads).result = .error (.addressMissing stuck.view.cursor) ∧
    Production.ofText (crossroadsText "4") { cast := crossroads.cast } = .ok mendedCrossroads ∧
    mendedCrossroads.graph.danglingJumps = [] ∧
    ∃ outcome, (offering.choose mendedCrossroads 1).result = .ok outcome := by
  intro stuck offering
  have made : Production.ofText (crossroadsText "9") { cast := crossroads.cast } =
      .ok crossroads := rfl
  have mended : Production.ofText (crossroadsText "4") { cast := crossroads.cast } =
      .ok mendedCrossroads := rfl
  have lost : crossroads.graph.contains stuck.view.cursor = false := by decide +kernel
  have sound : mendedCrossroads.graph.danglingJumps = [] := by decide +kernel
  obtain ⟨mentioned, fails, _⟩ :=
    cursor_staysOnCourse made [.host .advance, .host .advance, .host (.choose 1)]
  obtain ⟨_, _, goesOn⟩ := cursor_staysOnCourse mended [.host .advance, .host .advance]
  refine ⟨made, ?_, ?_, mended, sound, ?_⟩
  · exact mentioned.resolve_left (by decide +kernel)
  · exact (fails _).mpr ⟨Or.inr (by decide +kernel), lost, rfl⟩
  · exact (goesOn sound).2 1 (by decide +kernel)

end Playscript
