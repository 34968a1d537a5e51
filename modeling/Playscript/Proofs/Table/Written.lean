import Mathlib.Data.List.Forall2
import Playscript.Proofs.Config
import Playscript.Proofs.Table.Playable
import Playscript.Proofs.Table.Rows
import Playscript.Proofs.Text.Integer

/-!
Reading a table that was written. Whatever the layout of its columns and the blanks in its cells,
a table whose rows can be read at all is loaded without an issue, and each of its rows gives the
one record that it tells.
-/

namespace Playscript

def Columns.Distinct (columns : Columns) : Prop :=
  [columns.address, columns.tag, columns.speaker, columns.body, columns.jump, columns.variant].Nodup

instance (columns : Columns) : Decidable columns.Distinct :=
  inferInstanceAs (Decidable (List.Nodup _))

namespace Table

def AddressOf (config : Config) (cells : List String) (address : Address) : Prop :=
  Text.Spells (Text.trim (cellAt cells config.columns.address)).toList address.toInt

def TargetOf (config : Config) (cells : List String) (target : Address) : Prop :=
  Text.Spells (Text.trim (cellAt cells config.columns.jump)).toList target.toInt

def tagOf (config : Config) (cells : List String) : String :=
  normalizeTag (cellAt cells config.columns.tag)

/-- What a row of cells needs to be read. -/
structure Readable (config : Config) (cells : List String) : Prop where
  wide : config.minColumns ≤ cells.length
  text : ∀ cell ∈ cells, CellText config cell
  address : ∃ address, AddressOf config cells address
  kind : ∃ kind, tagOf config cells = config.tags.normalTag kind
  target : tagOf config cells ≠ config.tags.normalTag .terminate →
    ∃ target, TargetOf config cells target

/-- The record that a row of cells tells. -/
structure Tells (config : Config) (cells : List String) (record : Record) : Prop where
  address : AddressOf config cells record.address
  tag : record.tag = tagOf config cells
  speaker : record.speaker = Text.trim (cellAt cells config.columns.speaker)
  body : record.body = Text.trim (cellAt cells config.columns.body)
  ending : tagOf config cells = config.tags.normalTag .terminate → record.jump = none
  jump : tagOf config cells ≠ config.tags.normalTag .terminate →
    ∃ target, TargetOf config cells target ∧ record.jump = some target
  variant (cell : String) : cells[config.columns.variant]? = some cell → Text.trim cell ≠ "" →
    record.variant = Text.trim cell
  usual : (∀ cell, cells[config.columns.variant]? = some cell → Text.trim cell = "") →
    record.variant = config.defaultVariant

variable {config : Config} {cells : List String}

theorem readVariant_trimmed (cell : String)
    (found : cells[config.columns.variant]? = some cell) (written : Text.trim cell ≠ "") :
    readVariant config (cells.map Text.trim) = Text.trim cell := by
  simp [readVariant, cellAt, found, written]

theorem readVariant_usual
    (blank : ∀ cell, cells[config.columns.variant]? = some cell → Text.trim cell = "") :
    readVariant config (cells.map Text.trim) = config.defaultVariant := by
  have empty : cellAt (cells.map Text.trim) config.columns.variant = "" := by
    cases found : cells[config.columns.variant]? with
    | none => simp [cellAt, found]
    | some cell => simp [cellAt, found, blank cell found]
  simp [readVariant, empty]

theorem normalizeTag_cells (row : String) :
    normalizeTag (cellAt (Table.cells config row) config.columns.tag) =
      tagOf config (rawCells config row) := by
  rw [Table.cells, cellAt_map_trim, tagOf, normalizeTag, normalizeTag, Text.trim_trim]

theorem tells_of_readRow {row : String} {record : Record}
    (read : readRow config row = .ok record) : Tells config (rawCells config row) record := by
  obtain ⟨_, address, kind, jump, hasAddress, hasKind, readsJump, rfl⟩ :=
    (readRow_eq_ok_iff config row record).mp read
  rw [normalizeTag_cells] at hasKind
  have isEnd : kind = .terminate ↔
      tagOf config (rawCells config row) = config.tags.normalTag .terminate := by
    rw [← config.tags.kindOf?_eq_terminate_iff, hasKind, Option.some_inj]
  rw [Table.cells, cellAt_map_trim] at hasAddress readsJump
  rw [readJump_eq_ok_iff] at readsJump
  constructor
  · exact (Text.int32?_eq_some_iff _ _).mp hasAddress
  · exact normalizeTag_cells row
  · simp only [recordOf, Table.cells, cellAt_map_trim]
  · simp only [recordOf, Table.cells, cellAt_map_trim]
  · intro ends
    rcases readsJump with ⟨_, none⟩ | ⟨goesOn, _⟩
    · exact none
    · exact absurd (isEnd.mpr ends) goesOn
  · intro other
    rcases readsJump with ⟨ends, _⟩ | ⟨_, target, hasTarget, jumps⟩
    · exact absurd (isEnd.mp ends) other
    · exact ⟨target, (Text.int32?_eq_some_iff _ _).mp hasTarget, jumps⟩
  · exact readVariant_trimmed
  · exact readVariant_usual

theorem Readable.readRow (readable : Readable config cells) (names : config.tags.Distinct)
    (nonempty : cells ≠ []) :
    ∃ record, readRow config (trimRow config (joinCells config cells)) = .ok record ∧
      Tells config cells record := by
  have cut := cut_joinCells readable.text nonempty
  obtain ⟨address, hasAddress⟩ := readable.address
  obtain ⟨kind, tag⟩ := readable.kind
  obtain ⟨jump, readsJump⟩ : ∃ jump,
      readJump kind (Text.trim (cellAt cells config.columns.jump)) = .ok jump := by
    by_cases ends : kind = .terminate
    · exact ⟨none, (readJump_eq_ok_iff _ _ _).mpr (Or.inl ⟨ends, rfl⟩)⟩
    · -- Only here is the jump cell looked at; after an end it may hold anything.
      have goesOn : tagOf config cells ≠ config.tags.normalTag .terminate := by
        intro same
        exact ends (names.injective (tag.symm.trans same))
      obtain ⟨target, hasTarget⟩ := readable.target goesOn
      have read := (Text.int32?_eq_some_iff _ _).mpr hasTarget
      exact ⟨some target, (readJump_eq_ok_iff _ _ _).mpr (Or.inr ⟨ends, target, read, rfl⟩)⟩
  have read : Table.readRow config (joinCells config cells) =
      .ok (recordOf config (joinCells config cells) address jump) := by
    rw [readRow_eq_ok_iff, normalizeTag_cells]
    simp only [Table.cells, cut.rawCells_eq, cellAt_map_trim, List.length_map]
    refine ⟨readable.wide, address, kind, jump, ?_, ?_, readsJump, rfl⟩
    · exact (Text.int32?_eq_some_iff _ _).mpr hasAddress
    · rw [tag]
      exact names.kindOf? kind
  have tells := tells_of_readRow read
  rw [cut.rawCells_eq] at tells
  rw [readRow_trimRow]
  exact ⟨_, read, tells⟩

theorem trimRow_ne_empty {row : String} (several : 2 ≤ (Table.cells config row).length) :
    trimRow config row ≠ "" := by
  intro empty
  rw [← cells_trimRow, empty] at several
  have single : (Table.cells config "").length = 1 := rfl
  omega

def Reads (config : Config) (row : String) (record : Record) : Prop :=
  trimRow config row ≠ "" ∧ Table.readRow config (trimRow config row) = .ok record

theorem two_le_minColumns (distinct : config.columns.Distinct)
    (wide : config.columns.highestRequired < config.minColumns) : 2 ≤ config.minColumns := by
  have apart : config.columns.address ≠ config.columns.tag := by
    simp only [Columns.Distinct, List.nodup_cons, List.mem_cons, not_or] at distinct
    exact distinct.1.1
  simp only [Columns.highestRequired] at wide
  omega

theorem Readable.reads (readable : Readable config cells) (names : config.tags.Distinct)
    (several : 2 ≤ config.minColumns) :
    ∃ record, Reads config (joinCells config cells) record ∧ Tells config cells record := by
  have wide := readable.wide
  have nonempty : cells ≠ [] := by
    rintro rfl
    rw [List.length_nil] at wide
    omega
  obtain ⟨record, read, tells⟩ := readable.readRow names nonempty
  refine ⟨record, ⟨trimRow_ne_empty ?_, read⟩, tells⟩
  rw [← cells_trimRow, cells_joinCells readable.text nonempty, List.length_map]
  omega

theorem Readable.row_ne_empty (readable : Readable config cells) (names : config.tags.Distinct)
    (several : 2 ≤ config.minColumns) : joinCells config cells ≠ "" := by
  obtain ⟨record, ⟨notBlank, _⟩, _⟩ := readable.reads names several
  intro empty
  rw [empty] at notBlank
  exact notBlank rfl

theorem exists_told {table : List (List String)}
    (readable : ∀ cells ∈ table, Readable config cells) (names : config.tags.Distinct)
    (several : 2 ≤ config.minColumns) :
    ∃ records, List.Forall₂ (fun cells record => Reads config (joinCells config cells) record ∧
      Tells config cells record) table records := by
  induction table with
  | nil => exact ⟨[], .nil⟩
  | cons cells rest ih =>
      obtain ⟨first, later⟩ := List.forall_mem_cons.mp readable
      obtain ⟨record, told⟩ := first.reads names several
      obtain ⟨records, toldLater⟩ := ih later
      exact ⟨record :: records, .cons told toldLater⟩

theorem nodup_addresses {table : List (List String)} {records : List Record}
    (told : List.Forall₂ (Tells config) table records)
    (apart : table.Pairwise fun one other =>
      ∀ address, AddressOf config one address → ¬AddressOf config other address) :
    (records.map Record.address).Nodup := by
  obtain ⟨sameLength, each⟩ := List.forall₂_iff_get.mp told
  rw [List.Nodup, List.pairwise_map, List.pairwise_iff_get]
  intro i j before same
  have iRow : i.val < table.length := Nat.lt_of_lt_of_eq i.isLt sameLength.symm
  have jRow : j.val < table.length := Nat.lt_of_lt_of_eq j.isLt sameLength.symm
  have here := (each i iRow i.isLt).address
  have there := (each j jRow j.isLt).address
  rw [← same] at there
  exact List.pairwise_iff_get.mp apart ⟨i, iRow⟩ ⟨j, jRow⟩ before _ here there

theorem addRow_of_fresh {row : String} {record : Record}
    (read : Table.readRow config row = .ok record) {report : Report}
    (fresh : ∀ other ∈ report.graph.records, other.address ≠ record.address) (line : Nat) :
    report.addRow config line row = { report with graph := report.graph.insert record } := by
  have nobody := (report.graph.get?_eq_none_iff record.address).mpr fresh
  simp [Report.addRow, read, Graph.replace, nobody]

/-- The run lemma: rows with addresses of their own add their records and nothing else. -/
theorem foldl_addRow_of_fresh {rows : List (Nat × String)} {records : List Record}
    (read : List.Forall₂ (fun row record => Table.readRow config row.2 = .ok record) rows records)
    (distinct : (records.map Record.address).Nodup) {report : Report}
    (fresh : ∀ record ∈ records, ∀ other ∈ report.graph.records,
      other.address ≠ record.address) :
    let final := rows.foldl (fun report row => report.addRow config row.1 row.2) report
    final.issues = report.issues ∧ final.graph.records.Perm (report.graph.records ++ records) := by
  induction read generalizing report with
  | nil => exact ⟨rfl, by simp⟩
  | @cons row record rows records readFirst _ ih =>
      obtain ⟨firstFresh, restFresh⟩ := List.forall_mem_cons.mp fresh
      rw [List.map_cons, List.nodup_cons] at distinct
      let next : Report := { report with graph := report.graph.insert record }
      have added : next.graph.records.Perm (record :: report.graph.records) :=
        insertRecord_perm firstFresh
      have later : ∀ told ∈ records, ∀ other ∈ next.graph.records,
          other.address ≠ told.address := by
        intro told listed other found
        rcases Graph.mem_records_insert found with rfl | earlier
        · exact fun same => distinct.1 (same ▸ List.mem_map_of_mem listed)
        · exact restFresh told listed other earlier
      obtain ⟨issues, all⟩ := ih distinct.2 later
      rw [List.foldl_cons, addRow_of_fresh readFirst firstFresh]
      refine ⟨issues, all.trans ?_⟩
      exact (added.append_right records).trans List.perm_middle.symm

theorem readRows_of_written {written : List String} {records : List Record}
    (read : List.Forall₂ (Reads config) written records) (start : Nat) :
    List.Forall₂ (fun row record => Table.readRow config row.2 = .ok record)
      ((written.zipIdx start).filterMap fun (row, line) =>
        let row := trimRow config row
        if row.isEmpty then none else some (line, row)) records := by
  induction read generalizing start with
  | nil => exact .nil
  | @cons row record written records readFirst _ ih =>
      have kept : (trimRow config row).isEmpty = false := by simpa using readFirst.1
      rw [List.zipIdx_cons, List.filterMap_cons_some (b := (start, trimRow config row))
        (by simp only [kept, Bool.false_eq_true, if_false])]
      exact List.Forall₂.cons readFirst.2 (ih (start + 1))

structure Holds (config : Config) (text header : String) (written : List String) : Prop where
  rows : ∃ leading, leading.length = config.headerRow ∧
    Table.rows config text = leading ++ header :: written
  wide : config.minColumns ≤ (rawCells config header).length

theorem Holds.checkFormat {text header : String} {written : List String}
    (holds : Holds config text header written) (nonempty : written ≠ []) :
    checkFormat config text = .ok written.length := by
  obtain ⟨leading, placed, rows⟩ := holds.rows
  have notEmpty : text.isEmpty = false := by
    rw [Bool.eq_false_iff]
    intro empty
    rw [String.isEmpty_iff.mp empty] at rows
    have none : Table.rows config "" = [] := rfl
    rw [none] at rows
    simp at rows
  have found : (leading ++ header :: written)[config.headerRow]? = some header := by
    rw [← placed]
    simp
  have count : (leading ++ header :: written).length - (config.headerRow + 1) =
      written.length := by
    rw [List.length_append, List.length_cons, placed]
    omega
  have some : written.length ≠ 0 := by simpa using nonempty
  have wide := Nat.not_lt.mpr holds.wide
  simp only [Table.checkFormat, notEmpty, rows, found, count, some, wide, Bool.false_eq_true,
    if_false]

theorem Holds.dataRows {text header : String} {written : List String} {records : List Record}
    (holds : Holds config text header written)
    (read : List.Forall₂ (Reads config) written records) :
    List.Forall₂ (fun row record => Table.readRow config row.2 = .ok record)
      (dataRows config text) records := by
  obtain ⟨leading, placed, rows⟩ := holds.rows
  have long : (leading ++ [header]).length = config.headerRow + 1 := by simp [placed]
  have after : ((leading ++ header :: written).zipIdx 1).drop (config.headerRow + 1) =
      written.zipIdx (1 + (config.headerRow + 1)) := by
    rw [List.append_cons, List.zipIdx_append, long,
      List.drop_left' (by rw [List.length_zipIdx, long])]
  rw [Table.dataRows, rows, after]
  exact readRows_of_written read _

theorem Holds.parse {text header : String} {written : List String} {records : List Record}
    (holds : Holds config text header written)
    (read : List.Forall₂ (Reads config) written records)
    (distinct : (records.map Record.address).Nodup) :
    (parse config text).issues = [] ∧ (parse config text).graph.records.Perm records := by
  have fresh : ∀ record ∈ records, ∀ other ∈ Report.empty.graph.records,
      other.address ≠ record.address := by
    simp [Report.empty, Graph.empty]
  exact foldl_addRow_of_fresh (holds.dataRows read) distinct fresh

/-- A table that was written is loaded as it was written: no row is refused or replaced. -/
theorem load_written {config : Config} {leading : List String} {header : String}
    {table : List (List String)} (sound : config.validate = .ok ())
    (columns : config.columns.Distinct) (placed : leading.length = config.headerRow)
    (before : ∀ row ∈ leading, row ≠ "" ∧ RowText config row) (headerText : RowText config header)
    (wide : config.minColumns ≤ header.toList.count config.fieldDelimiter + 1)
    (nonempty : table ≠ []) (readable : ∀ cells ∈ table, Readable config cells)
    (apart : table.Pairwise fun one other =>
      ∀ address, AddressOf config one address → ¬AddressOf config other address) :
    ∃ report records,
      load config (joinRows config (leading ++ header :: table.map (joinCells config))) =
        .ok report ∧
      report.issues = [] ∧ List.Forall₂ (Tells config) table records ∧
      report.graph.records.Perm records := by
  obtain ⟨lineDiffers, returnDiffers, names, enough, _⟩ := (config.validate_eq_ok_iff).mp sound
  have several := two_le_minColumns columns enough
  obtain ⟨records, told⟩ := exists_told readable names several
  have reads : List.Forall₂ (Reads config) (table.map (joinCells config)) records :=
    List.forall₂_map_left_iff.mpr (told.imp fun _ _ => And.left)
  have tells : List.Forall₂ (Tells config) table records := told.imp fun _ _ => And.right
  have headerWritten : header ≠ "" := by
    rintro rfl
    have none : ("" : String).toList.count config.fieldDelimiter = 0 := rfl
    omega
  have rowsWritten : ∀ row ∈ table.map (joinCells config), row ≠ "" ∧ RowText config row := by
    intro row listed
    obtain ⟨cells, member, rfl⟩ := List.mem_map.mp listed
    have readableRow := readable cells member
    exact ⟨readableRow.row_ne_empty names several,
      rowText_joinCells readableRow.text lineDiffers returnDiffers⟩
  have holds : Holds config
      (joinRows config (leading ++ header :: table.map (joinCells config))) header
      (table.map (joinCells config)) := by
    refine ⟨⟨leading, placed, rows_joinRows ?_ (by simp)⟩, by rwa [length_rawCells]⟩
    rw [List.forall_mem_append, List.forall_mem_cons]
    exact ⟨before, ⟨headerWritten, headerText⟩, rowsWritten⟩
  have shape := holds.checkFormat (by simpa using nonempty)
  obtain ⟨issues, all⟩ := holds.parse reads (nodup_addresses tells apart)
  refine ⟨parse config _, records, (load_eq_ok_iff _ _ _).mpr ⟨sound, ⟨_, shape⟩, ?_, rfl⟩,
    issues, tells, all⟩
  rw [Graph.isEmpty, List.isEmpty_eq_false_iff]
  intro empty
  rw [empty, List.nil_perm] at all
  rw [all, List.forall₂_nil_right_iff] at tells
  exact nonempty tells

/-- Cells between tabs, rows between semicolons, and columns in an order of their own. -/
def ledger : Config where
  columns := ⟨3, 0, 5, 1, 2, 6⟩
  fieldDelimiter := '\t'
  lineDelimiter := ';'
  headerRow := 1
  minColumns := 6
  defaultVariant := "plain"

/-- The second variant is blank. The last row has none, and junk where its jump would be. -/
def ledgerRows : List (List String) :=
  [["w ", " Who is there?", " +7", " -1", "", "Ann ", " sad "],
    ["T", "Nobody.", "007", "2", "", "", "  "], ["end", "", "later", " 07 ", "", ""]]

theorem load_ledger :
    let header := "tag\tbody\tjump\taddress\t\tspeaker\tvariant"
    let text := joinRows ledger (["Scene one"] ++ header :: ledgerRows.map (joinCells ledger))
    ledger.validate = .ok () ∧ ledgerRows.map (joinCells ledger) =
      ["w \t Who is there?\t +7\t -1\t\tAnn \t sad ", "T\tNobody.\t007\t2\t\t\t  ",
        "end\t\tlater\t 07 \t\t"] ∧
    ∃ report records, load ledger text = .ok report ∧ report.issues = [] ∧
      List.Forall₂ (Tells ledger) ledgerRows records ∧ report.graph.records.Perm records := by
  intro header text
  have sound : ledger.validate = .ok () := rfl
  have reads {cell : String} {value : Int32} (read : Text.int32? cell = some value) :
      Text.Spells cell.toList value.toInt := (Text.int32?_eq_some_iff cell value).mp read
  have readable : ∀ cells ∈ ledgerRows, Readable ledger cells := by
    intro cells listed
    simp only [ledgerRows, List.mem_cons, List.not_mem_nil, or_false] at listed
    rcases listed with rfl | rfl | rfl
    · exact ⟨by decide, by decide +kernel, ⟨-1, reads (by decide +kernel)⟩,
        ⟨.speech, by decide +kernel⟩, fun _ => ⟨7, reads (by decide +kernel)⟩⟩
    · exact ⟨by decide, by decide +kernel, ⟨2, reads (by decide +kernel)⟩,
        ⟨.narration, by decide +kernel⟩, fun _ => ⟨7, reads (by decide +kernel)⟩⟩
    · exact ⟨by decide, by decide +kernel, ⟨7, reads (by decide +kernel)⟩,
        ⟨.terminate, by decide +kernel⟩, fun goesOn => absurd (by decide +kernel) goesOn⟩
  have differ : ledgerRows.Pairwise fun one other =>
      Text.int32? (Text.trim (cellAt one ledger.columns.address)) ≠
        Text.int32? (Text.trim (cellAt other ledger.columns.address)) := by
    decide +kernel
  have apart : ledgerRows.Pairwise fun one other =>
      ∀ address, AddressOf ledger one address → ¬AddressOf ledger other address := by
    refine differ.imp fun differs address here there => differs ?_
    rw [(Text.int32?_eq_some_iff _ _).mpr here, (Text.int32?_eq_some_iff _ _).mpr there]
  have before : ∀ row ∈ ["Scene one"], row ≠ "" ∧ RowText ledger row := by decide +kernel
  have headerText : RowText ledger header := by decide +kernel
  have loaded := load_written sound (by decide) rfl before headerText (by decide +kernel)
    (by decide) readable apart
  exact ⟨sound, by decide +kernel, loaded⟩

end Table
end Playscript
