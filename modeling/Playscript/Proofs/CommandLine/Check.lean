import Playscript.CommandLine.Running
import Playscript.Proofs.Player.Loading
import Playscript.Proofs.Player.Setback
import Playscript.Proofs.Text.Integer
import Playscript.Proofs.Text.Utf8

/-!
What checking a script tells of running it. Both commands read the same table from the same text, so
the records that the one counts are those that the other plays, and the jumps that the one lists as
dangling are all that can lead the other astray.
-/

namespace Playscript

theorem Fault.code_addressMissing_iff (fault : Fault) :
    fault.code = "ENGINE_ADDRESS_NOT_FOUND" ↔ ∃ address, fault = .addressMissing address := by
  cases fault <;> simp [code]

namespace Graph

theorem isEmpty_eq_false_iff (graph : Graph) : graph.isEmpty = false ↔ 0 < graph.size := by
  simp [isEmpty, size, List.length_pos_iff]

theorem first?_of_size_pos {graph : Graph} (some : 0 < graph.size) :
    ∃ first, graph.first? = .some first ∧ graph.contains first = true := by
  cases records : graph.records with
  | nil => simp [size, records] at some
  | cons record rest =>
      refine ⟨record.address, by simp [first?, addresses, records], ?_⟩
      rw [contains_iff]
      exact ⟨record, get?_address (by simp [records])⟩

end Graph

namespace Table

theorem recordsLine_inj {records others : Nat}
    (same : s!"RECORDS:{records}" = s!"RECORDS:{others}") : records = others := by
  have digits : Nat.toDigits 10 records = Nat.toDigits 10 others := by
    simpa [toString] using congrArg String.toList same
  exact Text.toDigits_inj digits

theorem Report.print_records (report : Report) (rows : Nat) :
    (report.print rows)[2]? = some s!"RECORDS:{report.graph.size}" :=
  rfl

theorem Report.dangling_mem_print {report : Report} {source target : Address}
    (dangling : (source, target) ∈ report.graph.danglingJumps) (rows : Nat) :
    s!"DANGLING:{source}|{target}" ∈ report.print rows :=
  List.mem_append_right _ (List.mem_map.mpr ⟨(source, target), dangling, rfl⟩)

end Table

namespace CommandLine

variable {disk : Disk} {script path text : String} {configPath : Option String} {config : Config}

theorem check_eq_ok_iff (resolved : disk.resolveFile script = .ok path)
    (read : disk.readText path = .ok text) (configured : disk.loadConfig configPath = .ok config)
    (lines : List String) :
    check disk script configPath = .ok lines ↔ ∃ rows, Table.checkFormat config text = .ok rows ∧
      (Table.parse config text).print rows = lines := by
  cases shape : Table.checkFormat config text with
  | error cause => simp [check, bind_eq_ok_iff, resolved, read, configured, shape, throw_ne_ok]
  | ok rows =>
      simp [check, bind_eq_ok_iff, resolved, read, configured, shape, pure_eq_ok_iff]

def sourceAt (path text : String) (config : Config) (cast : CastLookup) (entry : Option Address) :
    Source :=
  ⟨Text.fileStem (Text.fileName path), text, config, cast, entry⟩

theorem openSession_eq (mode : RevealMode) (paths : SourcePaths)
    (resolved : disk.resolveFile paths.script = .ok path)
    (read : disk.readText path = .ok text)
    (configured : disk.loadConfig paths.config = .ok config) :
    openSession disk mode paths = do
      let cast ← disk.loadCast paths.castDirectory paths.castFile
      let session ← Session.openSource mode (sourceAt path text config cast paths.entry)
      return (Text.fileStem (Text.fileName path), session) := by
  simp only [openSession, Disk.loadSource, resolved, read, configured, ok_bind, bind_assoc,
    pure_bind]
  rfl

theorem openSession_fault {mode : RevealMode} {paths : SourcePaths} {fault : Fault}
    (resolved : disk.resolveFile paths.script = .ok path) (read : disk.readText path = .ok text)
    (configured : disk.loadConfig paths.config = .ok config)
    (failed : openSession disk mode paths = .error fault) : fault.OfOpening := by
  rw [openSession_eq mode paths resolved read configured, bind_eq_error_iff] at failed
  rcases failed with uncast | ⟨cast, _, failed⟩
  · rcases Disk.loadCast_fault uncast with io | config
    · exact .inl io
    · exact .inr (.inl config)
  · rcases (bind_eq_error_iff _ _ fault).mp failed with unopened | ⟨_, _, never⟩
    · exact Session.openSource_fault (Disk.loadConfig_valid configured) unopened
    · cases never

theorem openSession_onCourse {mode : RevealMode} {paths : SourcePaths} {title : String}
    {session : Session}
    (resolved : disk.resolveFile paths.script = .ok path) (read : disk.readText path = .ok text)
    (configured : disk.loadConfig paths.config = .ok config)
    (opened : openSession disk mode paths = .ok (title, session)) :
    ∃ report, Table.load config text = .ok report ∧ session.OnCourse report.graph := by
  simp only [openSession_eq mode paths resolved read configured, bind_eq_ok_iff,
    pure_eq_ok_iff] at opened
  obtain ⟨cast, _, other, opened, same⟩ := opened
  obtain ⟨_, rfl⟩ := Prod.mk.inj same
  obtain ⟨production, made, _⟩ := (Session.openSource_eq_ok_iff _ _ _).mp opened
  obtain ⟨report, loaded, _⟩ := (Production.ofText_eq_ok_iff _ _ _).mp made
  exact ⟨report, loaded, Session.OnCourse.opened loaded opened⟩

theorem openSession_succeeds (mode : RevealMode) {report : Table.Report} {entry : Option Address}
    (resolved : disk.resolveFile script = .ok path) (read : disk.readText path = .ok text)
    (configured : disk.loadConfig configPath = .ok config)
    (loaded : Table.load config text = .ok report)
    (present : ∀ address, entry = some address → report.graph.contains address = true) :
    ∃ title session,
      openSession disk mode ⟨script, configPath, none, none, entry⟩ = .ok (title, session) := by
  obtain ⟨valid, _, nonempty, rfl⟩ := (Table.load_eq_ok_iff config text report).mp loaded
  -- Without an entry the script begins at its first address, and it has one.
  obtain ⟨first, lowest, firstPresent⟩ :=
    Graph.first?_of_size_pos ((Graph.isEmpty_eq_false_iff _).mp nonempty)
  have entryPresent : (Table.parse config text).graph.contains (entry.getD first) = true := by
    cases entry with
    | none => exact firstPresent
    | some address => exact present address rfl
  obtain ⟨production, prepared⟩ := Production.prepare_succeeds
    ⟨config, .nobody, entry, mode, none, Units.chars, []⟩ valid lowest entryPresent
  have made := (Production.ofText_eq_ok_iff text _ production).mpr ⟨_, loaded, prepared⟩
  have opened := (Session.openSource_eq_ok_iff mode (sourceAt path text config .nobody entry) _).mpr
    ⟨production, made, rfl⟩
  refine ⟨Text.fileStem (Text.fileName path), ⟨production, production.opening, .empty⟩, ?_⟩
  rw [openSession_eq mode ⟨script, configPath, none, none, entry⟩ resolved read configured,
    Disk.loadCast, pure_bind, opened]
  rfl

theorem run_fault (paths : SourcePaths) {choices : List Nat} {fault : Fault}
    (resolved : disk.resolveFile paths.script = .ok path) (read : disk.readText path = .ok text)
    (configured : disk.loadConfig paths.config = .ok config)
    (failed : run disk paths choices = .error fault) :
    openSession disk .manual paths = .error fault ∧ fault.OfOpening ∨
      ∃ report, Table.load config text = .ok report ∧ Setback report.graph fault := by
  rcases (bind_eq_error_iff _ _ fault).mp failed with unopened | ⟨⟨title, session⟩, opened, failed⟩
  · exact .inl ⟨unopened, openSession_fault resolved read configured unopened⟩
  · right
    obtain ⟨report, loaded, course⟩ := openSession_onCourse resolved read configured opened
    rcases (bind_eq_error_iff _ _ fault).mp failed with stopped | ⟨_, _, never⟩
    · exact ⟨report, loaded, course.transcript_fault stopped⟩
    · cases never

/-- What the lines of `check` tell of the sessions that the same files open. -/
structure Predicts (disk : Disk) (script : String) (configPath : Option String) (config : Config)
    (text : String) : Prop where
  passes : (∃ lines, check disk script configPath = .ok lines) ↔
    ∃ rows, Table.checkFormat config text = .ok rows
  loads : (∃ report, Table.load config text = .ok report) ↔
    ∃ (lines : List String) (records : Nat), check disk script configPath = .ok lines ∧
      lines[2]? = some s!"RECORDS:{records}" ∧ 0 < records
  opens (mode : RevealMode) (report : Table.Report) (entry : Option Address) :
    Table.load config text = .ok report →
    (∀ address, entry = some address → report.graph.contains address = true) →
    ∃ title session,
      openSession disk mode ⟨script, configPath, none, none, entry⟩ = .ok (title, session)
  -- The graph that is played is the one whose records were counted.
  plays (mode : RevealMode) (paths : SourcePaths) (title : String) (session : Session) :
    paths.script = script → paths.config = configPath →
    openSession disk mode paths = .ok (title, session) →
    ∃ report rows, Table.load config text = .ok report ∧
      check disk script configPath = .ok (report.print rows) ∧
      session.production.graph = report.graph
  safe (report : Table.Report) (lines : List String) (entry : Option Address)
      (choices : List Nat) :
    Table.load config text = .ok report → check disk script configPath = .ok lines →
    (∀ source target : Address, s!"DANGLING:{source}|{target}" ∉ lines) →
    (∀ address, entry = some address → report.graph.contains address = true) →
    (∃ told, run disk ⟨script, configPath, none, none, entry⟩ choices = .ok told) ∨
      ∃ fault, run disk ⟨script, configPath, none, none, entry⟩ choices = .error fault ∧
        fault.code ∈ ["CLI_STEP_LIMIT", "ENGINE_CHOICE_INDEX", "CLI_CHOICE_UNUSED"]
  astray (paths : SourcePaths) (choices : List Nat) (fault : Fault) :
    paths.script = script → paths.config = configPath →
    run disk paths choices = .error fault → fault.code = "ENGINE_ADDRESS_NOT_FOUND" →
    ∃ (lines : List String) (source target : Address),
      check disk script configPath = .ok lines ∧ fault.address? = some target ∧
      s!"DANGLING:{source}|{target}" ∈ lines

section

variable (resolved : disk.resolveFile script = .ok path) (read : disk.readText path = .ok text)
  (configured : disk.loadConfig configPath = .ok config)

include resolved read configured

theorem check_of_load {report : Table.Report} (loaded : Table.load config text = .ok report) :
    ∃ rows, check disk script configPath = .ok (report.print rows) := by
  obtain ⟨_, ⟨rows, shape⟩, _, rfl⟩ := (Table.load_eq_ok_iff config text report).mp loaded
  exact ⟨rows, (check_eq_ok_iff resolved read configured _).mpr ⟨rows, shape, rfl⟩⟩

theorem load_iff_records : (∃ report, Table.load config text = .ok report) ↔
    ∃ (lines : List String) (records : Nat), check disk script configPath = .ok lines ∧
      lines[2]? = some s!"RECORDS:{records}" ∧ 0 < records := by
  constructor
  · rintro ⟨report, loaded⟩
    obtain ⟨rows, checked⟩ := check_of_load resolved read configured loaded
    obtain ⟨_, _, nonempty, rfl⟩ := (Table.load_eq_ok_iff config text report).mp loaded
    exact ⟨_, _, checked, Table.Report.print_records _ rows,
      (Graph.isEmpty_eq_false_iff _).mp nonempty⟩
  · rintro ⟨lines, records, checked, counted, some⟩
    obtain ⟨rows, shape, rfl⟩ := (check_eq_ok_iff resolved read configured lines).mp checked
    rw [Table.Report.print_records] at counted
    obtain rfl := Table.recordsLine_inj (Option.some.inj counted)
    exact ⟨_, (Table.load_eq_ok_iff config text _).mpr ⟨Disk.loadConfig_valid configured,
      ⟨rows, shape⟩, (Graph.isEmpty_eq_false_iff _).mpr some, rfl⟩⟩

end

/-- What `check` passes is what loads, and its lines on dangling jumps name every address that a run
is led astray to. -/
theorem check_predictsRun (resolved : disk.resolveFile script = .ok path)
    (read : disk.readText path = .ok text) (configured : disk.loadConfig configPath = .ok config) :
    Predicts disk script configPath config text where
  passes := by
    simp only [check_eq_ok_iff resolved read configured]
    constructor
    · rintro ⟨_, rows, shape, _⟩
      exact ⟨rows, shape⟩
    · rintro ⟨rows, shape⟩
      exact ⟨_, rows, shape, rfl⟩
  loads := load_iff_records resolved read configured
  opens mode _ _ loaded present :=
    openSession_succeeds mode resolved read configured loaded present
  plays := by
    rintro mode paths title session rfl rfl opened
    obtain ⟨report, loaded, course⟩ := openSession_onCourse resolved read configured opened
    obtain ⟨rows, checked⟩ := check_of_load resolved read configured loaded
    exact ⟨report, rows, loaded, checked, course.graph⟩
  safe := by
    intro report lines entry choices loaded checked sound present
    obtain ⟨rows, counted⟩ := check_of_load resolved read configured loaded
    obtain rfl := Except.ok.inj (counted.symm.trans checked)
    obtain ⟨title, session, opened⟩ :=
      openSession_succeeds .manual resolved read configured loaded present
    let paths : SourcePaths := ⟨script, configPath, none, none, entry⟩
    cases ran : run disk paths choices with
    | ok told => exact .inl ⟨told, rfl⟩
    | error fault =>
        right
        refine ⟨fault, rfl, ?_⟩
        rcases run_fault paths resolved read configured ran with
          ⟨unopened, _⟩ | ⟨other, again, setback⟩
        · cases opened.symm.trans unopened
        · obtain rfl := Except.ok.inj (loaded.symm.trans again)
          cases setback with
          | stepLimit | outOfRange | unused => simp [Fault.code]
          | astray dangling =>
              exact absurd (Table.Report.dangling_mem_print dangling rows) (sound _ _)
  astray := by
    rintro paths choices fault rfl rfl failed named
    obtain ⟨target, rfl⟩ := (Fault.code_addressMissing_iff fault).mp named
    rcases run_fault paths resolved read configured failed with ⟨_, opening⟩ | ⟨report, loaded, setback⟩
    · exact absurd rfl (opening.ne_addressMissing target)
    · obtain ⟨rows, checked⟩ := check_of_load resolved read configured loaded
      cases setback with
      | @astray source _ dangling =>
          exact ⟨_, source, target, checked, rfl, Table.Report.dangling_mem_print dangling rows⟩

def oneChoice (target : String) : String :=
  "at,tag,who,what,next\n1,O,,Go," ++ target ++ "\n2,END,,,"

/-- Two scripts in one directory. The choice of the first leads nowhere, that of the other to the
end. -/
def bookshelf : Disk where
  root := .directory [("lost.csv", .file (Text.encodeUtf8 (oneChoice "9"))),
    ("sound.csv", .file (Text.encodeUtf8 (oneChoice "2")))]
  workingDirectory := "/"

theorem check_atBookshelf :
    let lines := ["RESULT:OK", "FORMAT_JSON:\"Format check passed (2 data rows).\"", "RECORDS:2"]
    check bookshelf "lost.csv" none = .ok (lines ++ ["DANGLING:1|9"]) ∧
    (∃ report, Table.load {} (oneChoice "9") = .ok report) ∧
    run bookshelf ⟨"lost.csv", none, none, none, none⟩ [0] = .error (.addressMissing 9) ∧
    (∃ (lines : List String) (source target : Address),
      check bookshelf "lost.csv" none = .ok lines ∧ target = 9 ∧
      s!"DANGLING:{source}|{target}" ∈ lines) ∧
    check bookshelf "sound.csv" none = .ok lines ∧
    ((∃ told, run bookshelf ⟨"sound.csv", none, none, none, none⟩ [0] = .ok told) ∨
      ∃ fault, run bookshelf ⟨"sound.csv", none, none, none, none⟩ [0] = .error fault ∧
        fault.code ∈ ["CLI_STEP_LIMIT", "ENGINE_CHOICE_INDEX", "CLI_CHOICE_UNUSED"]) := by
  intro lines
  have reads (name target : String)
      (found : bookshelf.find name = .ok (.file (Text.encodeUtf8 (oneChoice target)))) :
      bookshelf.readText name = .ok (oneChoice target) := by
    simp only [Disk.readText, found, Text.decodeUtf8?_encodeUtf8]
  have usual : bookshelf.loadConfig none = .ok {} := rfl
  have resolved : bookshelf.resolveFile "lost.csv" = .ok "/lost.csv" := by decide +kernel
  have resolvedSound : bookshelf.resolveFile "sound.csv" = .ok "/sound.csv" := by decide +kernel
  have read := reads "/lost.csv" "9" rfl
  have readSound := reads "/sound.csv" "2" rfl
  have lost := check_predictsRun resolved read usual
  have sound := check_predictsRun resolvedSound readSound usual
  have checked : check bookshelf "lost.csv" none = .ok (lines ++ ["DANGLING:1|9"]) := by
    rw [check_eq_ok_iff resolved read usual]
    exact ⟨2, by decide +kernel, by decide +kernel⟩
  have checkedSound : check bookshelf "sound.csv" none = .ok lines := by
    rw [check_eq_ok_iff resolvedSound readSound usual]
    exact ⟨2, by decide +kernel, by decide +kernel⟩
  have led : run bookshelf ⟨"lost.csv", none, none, none, none⟩ [0] =
      .error (.addressMissing 9) := by
    decide +kernel
  refine ⟨checked, lost.loads.mpr ⟨_, 2, checked, rfl, by decide⟩, led, ?_, checkedSound, ?_⟩
  · obtain ⟨told, source, target, checked, named, listed⟩ :=
      lost.astray ⟨"lost.csv", none, none, none, none⟩ [0] _ rfl rfl led rfl
    exact ⟨told, source, target, checked, (Option.some.inj named).symm, listed⟩
  · obtain ⟨report, loaded⟩ := sound.loads.mpr ⟨lines, 2, checkedSound, rfl, by decide⟩
    apply sound.safe report lines none [0] loaded checkedSound
    · intro source target listed
      have other : ∀ line ∈ lines, line.toList.head? ≠ some 'D' := by decide +kernel
      exact other _ listed (by simp [toString])
    · intro address entry
      cases entry

end CommandLine
end Playscript
