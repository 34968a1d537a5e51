import Mathlib.Data.List.Forall2
import Playscript.Proofs.Playback.Chronicle
import Playscript.Proofs.Player.Drive

/-!
The history of a drive by choices against the transcript that is printed of it: entry by entry they
tell of the same lines and the same options.
-/

namespace Playscript

/-- An entry of a transcript and one of a history that tell of the same record. -/
inductive Production.Retells (production : Production) : TranscriptEntry → HistoryEntry → Prop
  | line {record : Record} : production.graph.get? record.address = some record →
      production.IsLine record →
      Retells production (.line (production.shownAs record)) (.ofRecord record)
  | chose {index : Nat} {record : Record} :
      production.graph.get? record.address = some record →
      production.kindOf? record = some .branch →
      Retells production (.chose index record.body) (.ofRecord record)

theorem Production.MenuAt.lookup {production : Production} {cursor : Address}
    {menu : List BranchOption} (menuAt : production.MenuAt cursor menu) {index : Nat}
    {option : BranchOption} (found : menu[index]? = some option) :
    (menu.map fun option => (option.index, option.label)).lookup index = some option.label := by
  obtain ⟨within, here⟩ := List.getElem?_eq_some_iff.mp found
  have numbered := (menuAt.option index option found).1
  have whole : menu = menu.take index ++ option :: menu.drop (index + 1) := by
    rw [← here, ← List.drop_eq_getElem_cons within, List.take_append_drop]
  rw [whole, List.map_append, List.map_cons, numbered, List.lookup_eq_some_iff]
  refine ⟨_, _, rfl, ?_⟩
  intro entry listed
  obtain ⟨other, before, rfl⟩ := List.mem_map.mp listed
  obtain ⟨place, earlier, same⟩ := List.mem_take_iff_getElem.mp before
  have found := List.getElem?_eq_some_iff.mpr ⟨by omega, same⟩
  have otherNumbered := (menuAt.option place other found).1
  simp only [bne_iff_ne]
  omega

theorem Playback.advance_line {production : Production} {playback : Playback} {address : Address}
    {kind : LineKind} (result : (playback.advance production).result = .ok (.line address kind)) :
    ∃ record, production.graph.get? address = some record ∧ production.IsLine record ∧
      recordsOf (playback.advance production).events = [record] ∧
      production.shownAs record = ⟨address, (playback.advance production).next.view.label,
        (playback.advance production).next.view.body⟩ := by
  have advanced := advance_advanced production playback
  generalize playback.advance production = step at advanced result ⊢
  cases advanced with
  | finished | waiting | astray | blocked | offered | ended => simp at result
  | @shown record target _ view playing found known jump shows =>
      obtain ⟨rfl, rfl⟩ := Outcome.line.inj (Except.ok.inj result)
      have line : production.IsLine record := by
        cases shows with
        | spoken => exact Or.inl known
        | told => exact Or.inr known
      refine ⟨record, found, line, ?_, ?_⟩
      · rw [recordsOf_append, recordsOf_observe]
        rfl
      · rw [shows.shownAs known, Graph.address_of_get? found]
        rfl

namespace Session

/-- The session after the options of these indices are picked one after the other. -/
def pickedOn (session : Session) (choices : List Nat) : Session :=
  choices.foldl (fun reached index => (reached.chooseToBoundary index).2) session

def driven (session : Session) (choices : List Nat) : Session :=
  session.runToBoundary.2.pickedOn choices

/-- Between two sessions the history has grown by entries that tell what these entries tell. -/
structure Grows (session : Session) (told : List TranscriptEntry) (next : Session) : Prop where
  production : next.production = session.production
  history : ∃ later, next.history.entries = session.history.entries ++ later ∧
    List.Forall₂ session.production.Retells told later

variable {session next reached final : Session} {boundary : Boundary} {index : Nat}

namespace Grows

variable {told more : List TranscriptEntry}

theorem silent (production : next.production = session.production)
    (history : next.history.entries = session.history.entries) : session.Grows [] next :=
  ⟨production, [], by rw [history, List.append_nil], .nil⟩

theorem trans (first : session.Grows told next) (second : next.Grows more final) :
    session.Grows (told ++ more) final := by
  obtain ⟨early, added, tells⟩ := first.history
  obtain ⟨late, addedThen, tellsThen⟩ := second.history
  rw [first.production] at tellsThen
  refine ⟨second.production.trans first.production, early ++ late, ?_,
    List.rel_append tells tellsThen⟩
  rw [addedThen, added, List.append_assoc]

end Grows

theorem after_history {α : Type} (session : Session) (step : Step α) :
    (session.after step).history.entries =
      session.history.entries ++ (recordsOf step.events).map HistoryEntry.ofRecord := by
  have each : recordedEntry? = fun event => event.record?.map HistoryEntry.ofRecord := by
    funext event
    cases event <;> rfl
  rw [after, History.entries_addAll, each, recordsOf, List.map_filterMap]

theorem advance_line_grows {address : Address} {kind : LineKind}
    (advanced : session.advance = (.ok (.line address kind), next)) :
    session.Grows [.line (next.skip.2.shownLine address)] next.skip.2 := by
  obtain ⟨result, rfl⟩ := Prod.mk.inj advanced
  obtain ⟨record, found, line, taken, shown⟩ := Playback.advance_line result
  have seen : (session.after (session.playback.advance session.production)).skip.2.shownLine address =
      session.production.shownAs record := by
    rw [shown]
    simp [shownLine, skip, after, (Playback.skip_turned _).view]
  rw [← Graph.address_of_get? found] at found
  rw [seen]
  refine ⟨rfl, [.ofRecord record], ?_, .cons (.line found line) .nil⟩
  have history := session.after_history (session.playback.advance session.production)
  rw [taken] at history
  exact history

theorem advance_silent {outcome : Outcome} (advanced : session.advance = (.ok outcome, next))
    (other : ∀ address kind, outcome ≠ .line address kind) : session.Grows [] next := by
  obtain ⟨result, rfl⟩ := Prod.mk.inj advanced
  refine .silent rfl ?_
  have given := (Playback.advance_advanced session.production session.playback).takesDown
  rw [result] at given
  rw [after_history]
  generalize recordsOf _ = records at given ⊢
  cases given with
  | line => exact absurd rfl (other _ _)
  | menu | ended => simp

theorem Plays.grows (plays : session.Plays boundary final) :
    session.Grows (boundary.lines.map .line) final := by
  induction plays with
  | line advanced _ ih => exact (advance_line_grows advanced).trans ih
  | menu advanced => exact advance_silent advanced (by simp)
  | ended advanced => exact advance_silent advanced (by simp)

/-- One choice of a drive: the record of its option is taken down first, and then the lines that
follow. -/
structure Leg (session : Session) (index : Nat) (record : Record) (next : Boundary)
    (reached : Session) : Prop where
  awaiting : session.playback.phase = .awaitingChoice
  offered : ∃ option, session.playback.pending[index]? = some option ∧
    session.production.graph.get? option.address = some record ∧ option.label = record.body
  branch : session.production.kindOf? record = some .branch
  production : reached.production = session.production
  history : ∃ added, reached.history.entries = session.history.entries ++ .ofRecord record :: added ∧
    List.Forall₂ session.production.Retells (next.lines.map .line) added

theorem Leg.grows {record : Record} (leg : session.Leg index record boundary reached) :
    session.Grows (.chose index record.body :: boundary.lines.map .line) reached := by
  obtain ⟨option, _, present, _⟩ := leg.offered
  obtain ⟨added, history, tells⟩ := leg.history
  rw [← Graph.address_of_get? present] at present
  exact ⟨leg.production, _, history, .cons (.chose present leg.branch) tells⟩

theorem chooseToBoundary_leg (sound : session.Sound)
    (chosen : session.chooseToBoundary index = (.ok boundary, reached)) :
    ∃ record, session.Leg index record boundary reached := by
  obtain ⟨option, awaiting, found, plays⟩ := chooseToBoundary_plays chosen
  obtain ⟨_, _, record, present, branch, label, _⟩ :=
    (sound.offered awaiting).2.option index option found
  have picked : (session.pick option).history.entries =
      session.history.entries ++ [.ofRecord record] := by
    simp [pick, present]
  obtain ⟨added, history, tells⟩ := plays.grows.history
  rw [picked, List.append_assoc] at history
  exact ⟨record, awaiting, ⟨option, found, present, label⟩, branch, plays.grows.production, added,
    history, tells⟩

structure AtBoundary (session : Session) (boundary : Boundary) : Prop where
  settled : session.Settled boundary.kind
  sound : session.Sound

theorem AtBoundary.options (stands : session.AtBoundary boundary)
    (awaiting : session.playback.phase = .awaitingChoice) :
    boundary.options =
      session.playback.pending.map fun option => (option.index, option.label) := by
  obtain ⟨lines, kind⟩ := boundary
  cases stands.settled with
  | ended terminated => simp [awaiting] at terminated
  | menu => rfl

theorem AtBoundary.pickAll_leg {choices : List Nat} {transcript : Transcript}
    (stands : session.AtBoundary boundary)
    (told : session.pickAll boundary (index :: choices) = .ok transcript) :
    ∃ record next reached later, session.Leg index record next reached ∧
      session.chooseToBoundary index = (.ok next, reached) ∧ reached.AtBoundary next ∧
      reached.pickAll next choices = .ok later ∧
      transcript = ⟨boundary.lines.map .line ++ .chose index record.body :: later.entries,
        later.kind⟩ := by
  obtain ⟨next, reached, later, chosen, toldLater, rfl⟩ := pickAll_cons told
  obtain ⟨record, leg⟩ := chooseToBoundary_leg stands.sound chosen
  obtain ⟨option, found, _, label⟩ := leg.offered
  obtain ⟨_, _, _, plays⟩ := chooseToBoundary_plays chosen
  have named := (stands.sound.offered leg.awaiting).2.lookup found
  refine ⟨record, next, reached, later, leg, chosen,
    ⟨plays.settled, plays.sound (Sound.pick session _)⟩, toldLater, ?_⟩
  rw [stands.options leg.awaiting, named, Option.getD_some, label]

theorem AtBoundary.pickAll_lines {choices : List Nat} {transcript : Transcript}
    (stands : session.AtBoundary boundary)
    (told : session.pickAll boundary choices = .ok transcript) :
    ∃ entries, transcript.entries = boundary.lines.map .line ++ entries := by
  cases choices with
  | nil =>
      obtain rfl := Except.ok.inj told
      exact ⟨[], by simp⟩
  | cons index rest =>
      obtain ⟨_, _, _, _, _, _, _, _, rfl⟩ := stands.pickAll_leg told
      exact ⟨_, rfl⟩

theorem AtBoundary.pickAll_append {choices later : List Nat} {transcript : Transcript}
    (stands : session.AtBoundary boundary)
    (told : session.pickAll boundary (choices ++ later) = .ok transcript) :
    ∃ middle before after, (session.pickedOn choices).AtBoundary middle ∧
      session.Grows before (session.pickedOn choices) ∧
      transcript.entries = boundary.lines.map .line ++ before ++ after ∧
      (session.pickedOn choices).pickAll middle later =
        .ok ⟨middle.lines.map .line ++ after, transcript.kind⟩ := by
  induction choices generalizing session boundary transcript with
  | nil =>
      obtain ⟨after, all⟩ := stands.pickAll_lines told
      refine ⟨boundary, [], after, stands, .silent rfl rfl, by rw [all, List.append_nil], ?_⟩
      rw [← all]
      exact told
  | cons index rest ih =>
      obtain ⟨record, next, reached, others, leg, chosen, arrived, goesOn, rfl⟩ :=
        stands.pickAll_leg told
      obtain ⟨middle, before, after, stop, grows, all, onward⟩ := ih arrived goesOn
      have passed : session.pickedOn (index :: rest) = reached.pickedOn rest := by
        simp [pickedOn, chosen]
      rw [passed]
      refine ⟨middle, _, after, stop, leg.grows.trans grows, ?_, onward⟩
      simp [all]

theorem AtBoundary.pickAll_grows {choices : List Nat} {transcript : Transcript}
    (stands : session.AtBoundary boundary)
    (told : session.pickAll boundary choices = .ok transcript) :
    ∃ entries, transcript.entries = boundary.lines.map .line ++ entries ∧
      session.Grows entries (session.pickedOn choices) := by
  rw [← List.append_nil choices] at told
  obtain ⟨middle, entries, after, _, grows, all, ending⟩ := stands.pickAll_append told
  have none : after = [] := by
    simpa [pickAll] using congrArg Transcript.entries (Except.ok.inj ending)
  rw [none, List.append_nil] at all
  exact ⟨entries, all, grows⟩

theorem transcript_append {choices later : List Nat} {transcript : Transcript}
    (sound : session.Sound) (told : session.transcript (choices ++ later) = .ok transcript) :
    ∃ middle before after, (session.driven choices).AtBoundary middle ∧
      session.Grows before (session.driven choices) ∧ transcript.entries = before ++ after ∧
      (session.driven choices).pickAll middle later =
        .ok ⟨middle.lines.map .line ++ after, transcript.kind⟩ := by
  cases ran : session.runToBoundary with
  | mk result reached =>
      cases result with
      | error fault => simp [Session.transcript, ran] at told
      | ok boundary =>
          have plays := runToBoundary_plays ran
          have arrived : session.driven choices = reached.pickedOn choices := by
            rw [driven, ran]
          rw [Session.transcript, ran] at told
          obtain ⟨middle, before, after, stop, grows, all, onward⟩ :=
            AtBoundary.pickAll_append ⟨plays.settled, plays.sound sound⟩ told
          rw [arrived]
          exact ⟨middle, _, after, stop, plays.grows.trans grows, all, onward⟩

/-- A drive is retold by the history, with the record of the picked option at the place of each
choice. -/
structure Retold (session : Session) (choices : List Nat) (transcript : Transcript) : Prop where
  entries : List.Forall₂ session.production.Retells transcript.entries
    (session.driven choices).history.entries
  picked (before : List Nat) (index : Nat) (after : List Nat) :
    choices = before ++ index :: after →
    let offering := session.driven before
    ∃ option record, offering.playback.phase = .awaitingChoice ∧
      offering.playback.pending[index]? = some option ∧
      session.production.graph.get? option.address = some record ∧
      transcript.entries[offering.history.size]? = some (.chose index record.body) ∧
      (session.driven choices).history.entries[offering.history.size]? = some (.ofRecord record)

theorem Grows.of_empty {told : List TranscriptEntry} (grows : session.Grows told next)
    (fresh : session.history = .empty) :
    List.Forall₂ session.production.Retells told next.history.entries := by
  obtain ⟨later, history, tells⟩ := grows.history
  rw [fresh, History.entries_empty, List.nil_append] at history
  rw [history]
  exact tells

theorem driven_append_cons (session : Session) (before after : List Nat) (index : Nat) :
    session.driven (before ++ index :: after) =
      ((session.driven before).chooseToBoundary index).2.pickedOn after := by
  simp [driven, pickedOn]

theorem transcript_grows {choices : List Nat} {transcript : Transcript} (sound : session.Sound)
    (told : session.transcript choices = .ok transcript) :
    session.Grows transcript.entries (session.driven choices) := by
  rw [← List.nil_append choices] at told
  obtain ⟨first, before, after, stop, grows, all, onward⟩ := transcript_append sound told
  obtain ⟨entries, rest, more⟩ := stop.pickAll_grows onward
  rw [List.append_cancel_left rest] at all
  rw [all]
  exact grows.trans more

theorem transcript_retold {choices : List Nat} {transcript : Transcript} (sound : session.Sound)
    (fresh : session.history = .empty) (told : session.transcript choices = .ok transcript) :
    session.Retold choices transcript where
  entries := (transcript_grows sound told).of_empty fresh
  picked := by
    rintro before index after rfl offering
    obtain ⟨middle, earlier, later, stop, grows, all, onward⟩ := transcript_append sound told
    obtain ⟨record, next, reached, others, leg, chosen, arrived, goesOn, same⟩ :=
      stop.pickAll_leg onward
    obtain ⟨option, found, present, _⟩ := leg.offered
    obtain ⟨added, taken, _⟩ := leg.history
    obtain ⟨_, _, more⟩ := arrived.pickAll_grows goesOn
    obtain ⟨addedThen, takenThen, _⟩ := more.history
    have size : offering.history.size = earlier.length := by
      rw [← History.length_entries, (grows.of_empty fresh).length_eq]
    have told : later = .chose index record.body :: others.entries :=
      List.append_cancel_left (congrArg Transcript.entries same)
    have history : (session.driven (before ++ index :: after)).history.entries =
        offering.history.entries ++ .ofRecord record :: (added ++ addedThen) := by
      rw [driven_append_cons, chosen, takenThen, taken, List.append_assoc]
      rfl
    rw [grows.production] at present
    refine ⟨option, record, leg.awaiting, found, present, ?_, ?_⟩
    · rw [all, told, size]
      simp
    · rw [history, ← History.length_entries]
      simp

end Session

/-- The records that are taken down are exactly those that the moments give, and the history retells
the transcript. -/
theorem history_isChronicle (production : Production) (moments : List Moment) :
    (∀ records, production.Chronicle moments records ↔
      records = recordsOf (production.events moments)) ∧
    ∀ choices transcript,
      let session : Session := ⟨production, production.reached moments, .empty⟩
      session.transcript choices = .ok transcript → session.Retold choices transcript := by
  refine ⟨production.chronicle_iff moments, ?_⟩
  intro choices transcript session told
  have sound : session.Sound := (MenuInvariant.kept production).reached moments
  exact Session.transcript_retold sound rfl told

theorem history_atCrossroads :
    let astray : List Moment :=
      [.host .advance, .host .advance, .host (.choose 1), .host .advance, .host (.jumpTo 1)]
    let session : Session := ⟨crossroads, crossroads.opening, .empty⟩
    let told : Transcript := ⟨[.line ⟨1, "【Aoi】", "  Where now?"⟩, .chose 0 "Left"], .ended⟩
    crossroads.Chronicle astray [⟨1, "W", "Aoi", "Where now?", some 2, "smile"⟩,
      ⟨3, "O", "", "Right", some 9, "default"⟩] ∧
    session.transcript [0] = .ok told ∧
    List.Forall₂ crossroads.Retells told.entries (session.driven [0]).history.entries := by
  intro astray session told
  have drives : session.transcript [0] = .ok told := by decide +kernel
  refine ⟨?_, drives, ?_⟩
  · exact ((history_isChronicle crossroads astray).1 _).mpr (by decide +kernel)
  · exact ((history_isChronicle crossroads []).2 [0] told drives).entries

end Playscript
