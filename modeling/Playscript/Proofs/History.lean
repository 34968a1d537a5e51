import Playscript.History
import Playscript.Proofs.Config
import Playscript.Proofs.Playback.Chronicle

/-!
How a history reads. A sound configuration gives each kind of line a tag of its own, so what is
written of a record follows from the part in which it was played: an option that was picked is
marked, a narration stands alone, and speech follows the label of its speaker, if it has one.
-/

namespace Playscript

theorem TagNames.Distinct.kindOf?_eq_some_iff {names : TagNames} (distinct : names.Distinct)
    (tag : String) (kind : LineKind) :
    names.kindOf? tag = some kind ↔ tag = names.normalTag kind := by
  constructor
  · intro known
    obtain ⟨other, rfl⟩ := (names.exists_kindOf?_iff tag).mp ⟨kind, known⟩
    rw [distinct.kindOf? other] at known
    rw [Option.some.inj known]
  · rintro rfl
    exact distinct.kindOf? kind

namespace HistoryEntry

variable {config : Config} {record : Record}

theorem hasTag_ofRecord {kind : LineKind} (distinct : config.tags.Distinct)
    (known : config.kindOf? record.tag = some kind) (other : LineKind) :
    (ofRecord record).hasTag config other = decide (kind = other) := by
  have tag : normalizeTag record.tag = config.tags.normalTag kind :=
    (distinct.kindOf?_eq_some_iff _ _).mp known
  rw [Bool.eq_iff_iff, hasTag, beq_iff_eq, decide_eq_true_eq]
  change normalizeTag record.tag = _ ↔ _
  rw [tag]
  exact ⟨distinct.injective, congrArg _⟩

theorem format_ofRecord {kind : LineKind} (distinct : config.tags.Distinct)
    (known : config.kindOf? record.tag = some kind) :
    (ofRecord record).format config =
      if kind = .branch then "> " ++ record.body
      else if record.speaker = "" ∨ kind = .narration then record.body
      else config.speakerLabel record.speaker ++ " " ++ record.body := by
  simp only [format, hasTag_ofRecord distinct known, decide_eq_true_eq, Bool.or_eq_true,
    String.isEmpty_iff]
  rfl

end HistoryEntry

inductive Production.Writes (production : Production) : Except Fault Outcome → List String → Prop
  | narrated {address : Address} {record : Record} :
      production.graph.get? address = some record →
      Writes production (.ok (.line address .narration)) [record.body]
  | nameless {address : Address} {record : Record} :
      production.graph.get? address = some record → record.speaker = "" →
      Writes production (.ok (.line address .speech)) [record.body]
  | spoken {address : Address} {record : Record} :
      production.graph.get? address = some record → record.speaker ≠ "" →
      Writes production (.ok (.line address .speech))
        [production.config.speakerLabel record.speaker ++ " " ++ record.body]
  | menu (options : List BranchOption) : Writes production (.ok (.choices options)) []
  | ended : Writes production (.ok .ended) []
  | failed (fault : Fault) : Writes production (.error fault) []

inductive Playback.Writes (production : Production) (playback : Playback) :
    Moment → List String → Prop
  | advanced {lines : List String} :
      production.Writes (playback.advance production).result lines →
      Writes production playback (.host .advance) lines
  | picked {index : Nat} {option : BranchOption} {record : Record} {lines : List String} :
      playback.Accepts production index → playback.pending[index]? = some option →
      production.graph.get? option.address = some record →
      production.Writes (playback.choose production index).result lines →
      Writes production playback (.host (.choose index)) (("> " ++ record.body) :: lines)
  | refused {index : Nat} : ¬playback.Accepts production index →
      Writes production playback (.host (.choose index)) []
  | silent {moment : Moment} : moment ≠ .host .advance →
      (∀ index, moment ≠ .host (.choose index)) → Writes production playback moment []

inductive Production.Written (production : Production) : List Moment → List String → Prop
  | opening : Written production [] []
  | moment {moments : List Moment} {lines later : List String} {moment : Moment} :
      Written production moments lines →
      (production.reached moments).Writes production moment later →
      Written production (moments ++ [moment]) (lines ++ later)

theorem Production.Writes.unique {production : Production} {result : Except Fault Outcome}
    {lines others : List String} (first : production.Writes result lines)
    (second : production.Writes result others) : lines = others := by
  cases first with
  | narrated found =>
      cases second with
      | narrated again => rw [Option.some.inj (found.symm.trans again)]
  | nameless found nameless =>
      cases second with
      | nameless again => rw [Option.some.inj (found.symm.trans again)]
      | spoken again named =>
          exact absurd (Option.some.inj (found.symm.trans again) ▸ nameless) named
  | spoken found named =>
      cases second with
      | nameless again nameless =>
          exact absurd nameless (Option.some.inj (found.symm.trans again) ▸ named)
      | spoken again => rw [Option.some.inj (found.symm.trans again)]
  | menu | ended | failed =>
      cases second
      rfl

def linesOf (config : Config) (events : List Event) : List String :=
  (History.ofList ((recordsOf events).map HistoryEntry.ofRecord)).formatted config

theorem linesOf_eq (config : Config) (events : List Event) : linesOf config events =
    (recordsOf events).map fun record => (HistoryEntry.ofRecord record).format config := by
  rw [linesOf, History.formatted, History.entries_ofList, List.map_map, Function.comp_def]

namespace Playback

variable {production : Production} {playback : Playback}

theorem Writes.unique {moment : Moment} {lines others : List String}
    (first : playback.Writes production moment lines)
    (second : playback.Writes production moment others) : lines = others := by
  cases first with
  | advanced given =>
      cases second with
      | advanced again => exact given.unique again
      | silent other => exact absurd rfl other
  | @picked index _ _ _ accepted found present given =>
      cases second with
      | picked _ foundAgain presentAgain again =>
          obtain rfl := Option.some.inj (found.symm.trans foundAgain)
          obtain rfl := Option.some.inj (present.symm.trans presentAgain)
          rw [given.unique again]
      | refused refused => exact absurd accepted refused
      | silent _ other => exact absurd rfl (other index)
  | refused refused =>
      cases second with
      | picked accepted => exact absurd accepted refused
      | refused | silent => rfl
  | silent notAdvance notChoose =>
      cases second with
      | advanced => exact absurd rfl notAdvance
      | @picked index => exact absurd rfl (notChoose index)
      | refused | silent => rfl

theorem linesOf_append (config : Config) (events later : List Event) :
    linesOf config (events ++ later) = linesOf config events ++ linesOf config later := by
  rw [linesOf_eq, recordsOf_append, List.map_append, ← linesOf_eq, ← linesOf_eq]

theorem linesOf_observe (config : Config) (production : Production) (view : View) :
    linesOf config (production.observe view) = [] := by
  rw [linesOf_eq, recordsOf_observe, List.map_nil]

theorem Advanced.writes {step : Step (Except Fault Outcome)}
    (distinct : production.config.tags.Distinct) (advanced : Advanced production playback step) :
    production.Writes step.result (linesOf production.config step.events) := by
  cases advanced with
  | finished => exact .ended
  | waiting => exact .menu _
  | astray => exact .failed _
  | blocked =>
      rw [linesOf_observe]
      exact .failed _
  | @shown record _ _ view playing found known jump shows =>
      rw [linesOf_append, linesOf_observe]
      change production.Writes _ [(HistoryEntry.ofRecord record).format production.config]
      rw [HistoryEntry.format_ofRecord distinct known]
      cases shows with
      | told => simpa using Production.Writes.narrated found
      | spoken =>
          by_cases nameless : record.speaker = ""
          · simpa [nameless] using Production.Writes.nameless found nameless
          · simpa [nameless] using Production.Writes.spoken found nameless
  | offered =>
      rw [linesOf_append, linesOf_observe]
      exact .menu _
  | ended =>
      rw [linesOf_append, linesOf_observe]
      exact .ended

theorem Passage.writes {moment : Moment} {events : List Event} {next : Playback}
    (distinct : production.config.tags.Distinct) (invariant : MenuInvariant production playback)
    (passage : playback.Passage production moment events next) :
    playback.Writes production moment (linesOf production.config events) := by
  have cleared : linesOf production.config playback.clearingEvents = [] := by
    rw [linesOf_eq, recordsOf, filterMap_clearing rfl, List.map_nil]
  cases passage with
  | turned turns =>
      refine .silent ?_ ?_
      · rintro rfl
        cases turns
      · rintro index rfl
        cases turns
  | refused refused => exact .refused refused
  | strayed => exact .silent (by simp) (by simp)
  | advanced same advanced =>
      subst same
      exact .advanced (advanced.writes distinct)
  | @picked index option record step awaiting accepted found present same advanced =>
      -- An option of the menu comes from a branch line, and that is the record taken down.
      obtain ⟨_, _, branch, offered, known, _⟩ :=
        (invariant.offered awaiting).2.option index option found
      obtain rfl := Option.some.inj (offered.symm.trans present)
      have marked : (HistoryEntry.ofRecord branch).format production.config = "> " ++ branch.body :=
        HistoryEntry.format_ofRecord distinct known
      have lines := advanced.writes distinct
      rw [← same] at lines
      have written := Writes.picked accepted found present lines
      rw [← marked, linesOf_eq] at written
      rw [linesOf_eq]
      exact written
  | jumped =>
      rw [cleared]
      exact .silent (by simp) (by simp)
  | restarted =>
      rw [cleared]
      exact .silent (by simp) (by simp)

end Playback

theorem Production.written_iff {production : Production}
    (distinct : production.config.tags.Distinct) (moments : List Moment) (lines : List String) :
    production.Written moments lines ↔
      lines = linesOf production.config (production.events moments) := by
  have writes (moments : List Moment) (moment : Moment) :=
    let invariant := (MenuInvariant.kept production).reached moments
    (Playback.passage invariant moment).writes distinct invariant
  constructor
  · intro written
    induction written with
    | opening => rfl
    | @moment moments _ _ last _ given ih =>
        rw [events_concat, Playback.linesOf_append, ih, given.unique (writes moments last)]
  · rintro rfl
    induction moments using List.reverseRecOn with
    | nil => exact .opening
    | append_singleton moments last ih =>
        rw [events_concat, Playback.linesOf_append]
        exact .moment ih (writes moments last)

/-- The history is written as the lines were played: a picked option is marked, and speech follows
the label of its speaker. -/
theorem history_readsAsPlayed {config : Config} (sound : config.validate = .ok ()) :
    (∀ tag kind, config.tags.kindOf? tag = some kind ↔ tag = config.tags.normalTag kind) ∧
    ∀ production : Production, production.config = config → ∀ moments lines,
      production.Written moments lines ↔ lines = linesOf config (production.events moments) := by
  obtain ⟨_, _, distinct, _⟩ := config.validate_eq_ok_iff.mp sound
  refine ⟨distinct.kindOf?_eq_some_iff, ?_⟩
  rintro production rfl moments lines
  exact Production.written_iff distinct moments lines

def masquerade : Production :=
  { crossroads with
    graph := ⟨[
      ⟨1, "\tSay", "", "Who is there?", some 2, "default"⟩,
      ⟨2, "tell ", "Ren", "Nobody answers.", some 3, "default"⟩,
      ⟨3, " sAY", "Aoi", "Strange.", some 4, "smile"⟩,
      ⟨4, "pick", "Ren", "Leave", some 5, "default"⟩,
      ⟨5, "end", "", "", none, "default"⟩], by unfold Ascending; decide⟩
    config := { tags := { speech := " say ", narration := "Tell", branch := "PICK\n" } } }

theorem history_atMasquerade :
    let evening : List Moment :=
      [.host .advance, .host .advance, .host .advance, .host .advance, .host (.choose 0)]
    masquerade.config.validate = .ok () ∧
    masquerade.config.tags.kindOf? "SAY" = some .speech ∧
    masquerade.config.tags.kindOf? "say" = none ∧
    masquerade.Written evening
      ["Who is there?", "Nobody answers.", "【Aoi】 Strange.", "> Leave"] := by
  intro evening
  have sound : masquerade.config.validate = .ok () := rfl
  obtain ⟨kinds, written⟩ := history_readsAsPlayed sound
  refine ⟨sound, (kinds _ _).mpr (by decide +kernel), ?_,
    (written _ rfl _ _).mpr (by decide +kernel)⟩
  rw [Option.eq_none_iff_forall_ne_some]
  intro kind known
  have tag := (kinds _ _).mp known
  revert kind
  decide +kernel

end Playscript
