import Playscript.Proofs.Except
import Playscript.Proofs.Graph.Lookup
import Playscript.Proofs.Text.UpperCase
import Playscript.Table.Report

/-!
What reading a script promises of its records: each has a tag that stands for a kind of line, and
each that does not end the story has a jump.
-/

namespace Playscript

/-- The tag of a record stands for a kind, and the record has a jump if that kind asks for one. -/
def Config.CanPlay (config : Config) (record : Record) : Prop :=
  ∃ kind, config.kindOf? record.tag = some kind ∧
    (kind = .terminate ∨ ∃ target, record.jump = some target)

namespace Table

theorem readAddress_eq_ok_iff (cell : String) (address : Address) :
    readAddress cell = .ok address ↔ Text.int32? cell = some address := by
  unfold readAddress
  split <;> simp_all

theorem readKind_eq_ok_iff (names : TagNames) (tag : String) (kind : LineKind) :
    readKind names tag = .ok kind ↔ names.kindOf? tag = some kind := by
  unfold readKind
  split <;> simp_all

theorem readJump_eq_ok_iff (kind : LineKind) (cell : String) (jump : Option Address) :
    readJump kind cell = .ok jump ↔
      (kind = .terminate ∧ jump = none) ∨
        (kind ≠ .terminate ∧ ∃ target, Text.int32? cell = some target ∧ jump = some target) := by
  by_cases ends : kind = .terminate
  · simp [readJump, ends, eq_comm]
  · cases read : Text.int32? cell with
    | none => simp [readJump, ends, read]
    | some target => simp [readJump, ends, read, eq_comm]

def recordOf (config : Config) (row : String) (address : Address) (jump : Option Address) :
    Record where
  address := address
  tag := normalizeTag (cellAt (cells config row) config.columns.tag)
  speaker := cellAt (cells config row) config.columns.speaker
  body := cellAt (cells config row) config.columns.body
  jump := jump
  variant := readVariant config (cells config row)

theorem readRow_eq_ok_iff (config : Config) (row : String) (record : Record) :
    readRow config row = .ok record ↔
      config.minColumns ≤ (cells config row).length ∧
      ∃ address kind jump,
        Text.int32? (cellAt (cells config row) config.columns.address) = some address ∧
        config.tags.kindOf? (normalizeTag (cellAt (cells config row) config.columns.tag)) =
          some kind ∧
        readJump kind (cellAt (cells config row) config.columns.jump) = .ok jump ∧
        recordOf config row address jump = record := by
  by_cases narrow : (cells config row).length < config.minColumns
  · simp only [readRow, narrow, if_true, bind_eq_ok_iff, throw_ne_ok, false_and, exists_false,
      false_iff]
    omega
  · simp only [readRow, narrow, if_false, bind_eq_ok_iff, pure_eq_ok_iff, readAddress_eq_ok_iff,
      readKind_eq_ok_iff]
    constructor
    · rintro ⟨address, readsAddress, kind, readsKind, jump, readsJump, made⟩
      exact ⟨by omega, address, kind, jump, readsAddress, readsKind, readsJump, made⟩
    · rintro ⟨_, address, kind, jump, readsAddress, readsKind, readsJump, made⟩
      exact ⟨address, readsAddress, kind, readsKind, jump, readsJump, made⟩

theorem readRow_canPlay {config : Config} {row : String} {record : Record}
    (read : readRow config row = .ok record) : config.CanPlay record := by
  obtain ⟨_, address, kind, jump, _, readsKind, readsJump, rfl⟩ :=
    (readRow_eq_ok_iff config row record).mp read
  refine ⟨kind, ?_, ?_⟩
  · -- The record keeps the normalized tag, which is normalized again when it is played.
    rw [Config.kindOf?, recordOf, normalizeTag_idempotent]
    exact readsKind
  · rw [readJump_eq_ok_iff] at readsJump
    rcases readsJump with ⟨ends, _⟩ | ⟨_, target, _, jumps⟩
    · exact Or.inl ends
    · exact Or.inr ⟨target, jumps⟩

theorem graph_addRow_of_error {config : Config} {row : String} {fault : RowFault}
    (refused : readRow config row = .error fault) (report : Report) (line : Nat) :
    (report.addRow config line row).graph = report.graph := by
  simp [Report.addRow, refused, Report.push]

theorem graph_addRow_of_ok {config : Config} {row : String} {record : Record}
    (read : readRow config row = .ok record) (report : Report) (line : Nat) :
    (report.addRow config line row).graph = report.graph.insert record := by
  by_cases displaced : (report.graph.get? record.address).isSome
  · simp [Report.addRow, read, Graph.replace, displaced, Report.push]
  · simp [Report.addRow, read, Graph.replace, displaced]

theorem addRow_records {config : Config} {property : Record → Prop}
    (reads : ∀ row record, readRow config row = .ok record → property record) {report : Report}
    (known : ∀ record ∈ report.graph.records, property record) (line : Nat) (row : String) :
    ∀ record ∈ (report.addRow config line row).graph.records, property record := by
  intro member found
  cases read : readRow config row with
  | error fault =>
      rw [graph_addRow_of_error read] at found
      exact known member found
  | ok record =>
      rw [graph_addRow_of_ok read] at found
      rcases Graph.mem_records_insert found with rfl | earlier
      · exact reads row _ read
      · exact known member earlier

theorem foldl_addRow_records {config : Config} {property : Record → Prop}
    (reads : ∀ row record, readRow config row = .ok record → property record)
    (rows : List (Nat × String)) {report : Report}
    (known : ∀ record ∈ report.graph.records, property record) :
    ∀ record ∈ (rows.foldl (fun report row => report.addRow config row.1 row.2)
      report).graph.records, property record := by
  induction rows generalizing report with
  | nil => exact known
  | cons first rest ih => exact ih (addRow_records reads known first.1 first.2)

theorem parse_records {config : Config} {property : Record → Prop}
    (reads : ∀ row record, readRow config row = .ok record → property record) (text : String) :
    ∀ record ∈ (parse config text).graph.records, property record := by
  have empty : ∀ record ∈ Report.empty.graph.records, property record := by
    simp [Report.empty, Graph.empty]
  exact foldl_addRow_records reads (dataRows config text) empty

theorem readRow_variant_ne {config : Config} (usual : config.defaultVariant ≠ "") {row : String}
    {record : Record} (read : readRow config row = .ok record) : record.variant ≠ "" := by
  obtain ⟨_, address, kind, jump, _, _, _, rfl⟩ := (readRow_eq_ok_iff config row record).mp read
  simp only [recordOf, readVariant]
  split
  · exact usual
  · rename_i written
    simpa using written

theorem load_eq_ok_iff (config : Config) (text : String) (report : Report) :
    load config text = .ok report ↔
      config.validate = .ok () ∧ (∃ dataRows, checkFormat config text = .ok dataRows) ∧
        (parse config text).graph.isEmpty = false ∧ parse config text = report := by
  cases sound : config.validate with
  | error fault => simp [load, sound, bind_eq_ok_iff]
  | ok _ =>
      cases shape : checkFormat config text with
      | error cause => simp [load, sound, shape, bind_eq_ok_iff, throw_ne_ok]
      | ok dataRows =>
          cases empty : (parse config text).graph.isEmpty with
          | true =>
              have refused : load config text =
                  .error (.noPlayableRows (parse config text).skipped.length) := by
                simp only [load, sound, shape, empty, if_true]
                rfl
              simp [refused]
          | false => simp [load, sound, shape, empty]

theorem load_canPlay {config : Config} {text : String} {report : Report}
    (loaded : load config text = .ok report) :
    ∀ record ∈ report.graph.records, config.CanPlay record := by
  obtain ⟨_, _, _, rfl⟩ := (load_eq_ok_iff config text report).mp loaded
  exact parse_records (fun _ _ => readRow_canPlay) text

theorem load_variant_ne {config : Config} {text : String} {report : Report}
    (usual : config.defaultVariant ≠ "") (loaded : load config text = .ok report) :
    ∀ record ∈ report.graph.records, record.variant ≠ "" := by
  obtain ⟨_, _, _, rfl⟩ := (load_eq_ok_iff config text report).mp loaded
  exact parse_records (fun _ _ => readRow_variant_ne usual) text

end Table
end Playscript
