import Playscript.Proofs.Table.Account

/-!
The rows that a parse goes through are those that the check of the format counts: both leave out
the header and all that comes before it. So a text is refused for want of rows just when there is
nothing to read in it, and otherwise only its header decides.
-/

namespace Playscript

namespace Table

def Blank (config : Config) (row : String) : Prop :=
  ∀ c ∈ row.toList, Text.isBlank c = true ∧ c ≠ config.fieldDelimiter

instance (config : Config) (row : String) : Decidable (Blank config row) :=
  List.decidableBAll (fun c => Text.isBlank c = true ∧ c ≠ config.fieldDelimiter) row.toList

/-- The rows after the header as they stand in the text, each with its place. -/
def examined (config : Config) (text : String) : List (String × Nat) :=
  ((rows config text).zipIdx 1).drop (config.headerRow + 1)

/-- One row of a parse: a blank one is passed over, any other is added without the blanks around
it. -/
def Report.examine (config : Config) (report : Report) (numbered : String × Nat) : Report :=
  if Blank config numbered.1 then report
  else report.addRow config numbered.2 (trimRow config numbered.1)

def Parses (config : Config) (row : String) : Prop :=
  ¬Blank config row ∧ ∃ record, readRow config (trimRow config row) = .ok record

def largestCount : Nat := UInt64.size - 1

def firstDataRow (config : Config) : Nat :=
  min (config.headerRow + 1) largestCount

variable {config : Config} {text : String}

theorem trimRow_eq_empty_iff (config : Config) (row : String) :
    trimRow config row = "" ↔ Blank config row := by
  rw [trimRow, ← String.toList_inj, String.toList_ofList, String.toList_empty,
    Text.strip_eq_nil_iff]
  simp [Blank]

theorem placed?_of_blank {numbered : String × Nat} (blank : Blank config numbered.1) :
    placed? config numbered = none := by
  simp [placed?, (trimRow_eq_empty_iff config numbered.1).mpr blank]

theorem placed?_of_not_blank {numbered : String × Nat} (written : ¬Blank config numbered.1) :
    placed? config numbered = some (numbered.2, trimRow config numbered.1) := by
  simp [placed?, (trimRow_eq_empty_iff config numbered.1).not.mpr written]

theorem dataRows_eq_examined (config : Config) (text : String) :
    dataRows config text = (examined config text).filterMap (placed? config) :=
  rfl

theorem parse_eq_foldl_examine (config : Config) (text : String) :
    parse config text = (examined config text).foldl (Report.examine config) .empty := by
  rw [parse, dataRows_eq_examined, List.foldl_filterMap]
  refine congrArg (fun step => (examined config text).foldl step Report.empty) ?_
  funext report numbered
  by_cases blank : Blank config numbered.1
  · rw [placed?_of_blank blank, Report.examine, if_pos blank]
  · rw [placed?_of_not_blank blank, Report.examine, if_neg blank]

theorem length_examined (config : Config) (text : String) :
    (examined config text).length = (rows config text).length - (config.headerRow + 1) := by
  rw [examined, List.length_drop, List.length_zipIdx]

theorem examined_eq_nil_iff (config : Config) (text : String) :
    examined config text = [] ↔ (rows config text).length ≤ config.headerRow + 1 := by
  rw [← List.length_eq_zero_iff, length_examined]
  omega

theorem firstDataRow_counts (placed : config.headerRow ≤ largestCount)
    (within : (rows config text).length ≤ largestCount) :
    (rows config text).length - firstDataRow config = (examined config text).length ∧
      ((rows config text).zipIdx 1).drop (firstDataRow config) = examined config text := by
  rcases Nat.lt_or_eq_of_le placed with before | last
  · have exact : firstDataRow config = config.headerRow + 1 := Nat.min_eq_left before
    exact ⟨by rw [exact, length_examined], by rw [exact, examined]⟩
  · -- Here the count has stopped, and there is no row at either place.
    have stopped : firstDataRow config = largestCount := by
      rw [firstDataRow, last]
      exact Nat.min_eq_right (Nat.le_succ largestCount)
    have none : examined config text = [] := by
      rw [examined_eq_nil_iff, last]
      exact Nat.le_succ_of_le within
    rw [stopped, none]
    refine ⟨Nat.sub_eq_zero_of_le within, ?_⟩
    rw [List.drop_eq_nil_iff, List.length_zipIdx]
    exact within

theorem rows_empty (config : Config) : rows config "" = [] :=
  rfl

theorem checkFormat_empty (config : Config) : checkFormat config "" = .error .emptyText :=
  rfl

theorem checkFormat_of_none (written : text ≠ "") (none : examined config text = []) :
    checkFormat config text = .error (.noDataRows (rows config text).length) := by
  have short := (examined_eq_nil_iff config text).mp none
  have empty : text.isEmpty = false := by simpa using written
  cases header : (rows config text)[config.headerRow]? with
  | none => simp [checkFormat, empty, header]
  | some header => simp [checkFormat, empty, header, Nat.sub_eq_zero_of_le short]

theorem checkFormat_of_some (some : examined config text ≠ []) :
    ∃ header, (rows config text)[config.headerRow]? = .some header ∧
      checkFormat config text =
        if (rawCells config header).length < config.minColumns then
          .error (.narrowHeader (rawCells config header).length config.minColumns)
        else .ok (examined config text).length := by
  have long : config.headerRow + 1 < (rows config text).length := by
    simpa [examined_eq_nil_iff] using some
  have empty : text.isEmpty = false := by
    rw [Bool.eq_false_iff]
    intro empty
    simp [String.isEmpty_iff.mp empty, rows_empty] at long
  have header : (rows config text)[config.headerRow]? =
      .some (rows config text)[config.headerRow] := List.getElem?_eq_getElem (by omega)
  have rest : (rows config text).length - (config.headerRow + 1) ≠ 0 := by omega
  refine ⟨_, header, ?_⟩
  simp only [checkFormat, empty, header, rest, length_examined, Bool.false_eq_true, if_false]

theorem checkFormat_eq_emptyText_iff (config : Config) (text : String) :
    checkFormat config text = .error .emptyText ↔ text = "" := by
  constructor
  · intro refused
    by_contra written
    by_cases none : examined config text = []
    · rw [checkFormat_of_none written none] at refused
      cases refused
    · obtain ⟨header, _, told⟩ := checkFormat_of_some none
      rw [told] at refused
      split at refused <;> cases refused
  · rintro rfl
    exact checkFormat_empty config

theorem refused_iff_nothingExamined (config : Config) (text : String) :
    (checkFormat config text = .error .emptyText ∨
      ∃ found, checkFormat config text = .error (.noDataRows found)) ↔
        examined config text = [] := by
  constructor
  · intro refused
    by_contra some
    obtain ⟨header, _, told⟩ := checkFormat_of_some some
    rw [told] at refused
    split at refused <;> simp at refused
  · intro none
    by_cases written : text = ""
    · exact .inl ((checkFormat_eq_emptyText_iff config text).mpr written)
    · exact .inr ⟨_, checkFormat_of_none written none⟩

theorem size_add_issues (config : Config) (text : String) :
    (parse config text).graph.size + (parse config text).issues.length =
      (examined config text).countP fun numbered => ¬Blank config numbered.1 := by
  rw [(parse_accounts config text).count, dataRows_eq_examined, List.length_filterMap_eq_countP]
  refine congrArg (fun counts => (examined config text).countP counts) ?_
  funext numbered
  by_cases blank : Blank config numbered.1
  · simp [placed?_of_blank blank, blank]
  · simp [placed?_of_not_blank blank, blank]

theorem mem_tableRows_iff (config : Config) (text row : String) :
    row ∈ (dataRows config text).map Prod.snd ↔ ∃ numbered ∈ examined config text,
      ¬Blank config numbered.1 ∧ trimRow config numbered.1 = row := by
  simp only [List.mem_map, dataRows_eq_examined, List.mem_filterMap]
  constructor
  · rintro ⟨⟨line, _⟩, ⟨numbered, listed, placed⟩, rfl⟩
    obtain ⟨_, trimmed, written⟩ := (placed?_eq_some_iff _ _ _ _).mp placed
    refine ⟨numbered, listed, ?_, trimmed⟩
    rwa [← trimRow_eq_empty_iff, trimmed]
  · rintro ⟨numbered, listed, written, rfl⟩
    exact ⟨_, ⟨numbered, listed, placed?_of_not_blank written⟩, rfl⟩

theorem isEmpty_eq_false_iff_parses (config : Config) (text : String) :
    (parse config text).graph.isEmpty = false ↔
      ∃ numbered ∈ examined config text, Parses config numbered.1 := by
  have latest := (parse_accounts config text).latest
  rw [Graph.isEmpty, List.isEmpty_eq_false_iff]
  constructor
  · intro nonempty
    obtain ⟨record, member⟩ := List.exists_mem_of_ne_nil _ nonempty
    have found := List.mem_of_getLast? ((latest _).symm.trans (Graph.get?_address member))
    obtain ⟨⟨row, listed, read⟩, _⟩ := (mem_recordsAt_iff _ _ _ _).mp found
    obtain ⟨numbered, there, written, rfl⟩ := (mem_tableRows_iff _ _ _).mp listed
    exact ⟨numbered, there, written, record, read⟩
  · rintro ⟨numbered, there, written, record, read⟩ empty
    have listed := (mem_tableRows_iff config text _).mpr ⟨numbered, there, written, rfl⟩
    have told := (mem_recordsAt_iff _ _ _ record).mpr ⟨⟨_, listed, read⟩, rfl⟩
    have nothing : (parse config text).graph.get? record.address = none := by
      simp [Graph.get?, empty]
    rw [latest, List.getLast?_eq_none_iff] at nothing
    exact List.ne_nil_of_mem told nothing

/-- A check of the format refuses a text just when a parse has no rows to look at or its header is
too narrow. -/
theorem checkFormat_agreesWithParse (config : Config) (text : String) :
    let examined := examined config text
    let report := parse config text
    report = examined.foldl (Report.examine config) .empty ∧
    (checkFormat config text = .error .emptyText ↔ text = "") ∧
    ((checkFormat config text = .error .emptyText ∨
      ∃ found, checkFormat config text = .error (.noDataRows found)) ↔ examined = []) ∧
    (examined = [] → report.graph.size = 0 ∧ report.issues = []) ∧
    (config.headerRow ≤ largestCount → (rows config text).length ≤ largestCount →
      (rows config text).length - firstDataRow config = examined.length ∧
      ((rows config text).zipIdx 1).drop (firstDataRow config) = examined) ∧
    report.graph.size + report.issues.length ≤ examined.length ∧
    (report.graph.size + report.issues.length = examined.length ↔
      ∀ numbered ∈ examined, ¬Blank config numbered.1) ∧
    (examined ≠ [] → ∃ header, (rows config text)[config.headerRow]? = some header ∧
      checkFormat config text =
        if (rawCells config header).length < config.minColumns then
          .error (.narrowHeader (rawCells config header).length config.minColumns)
        else .ok examined.length) ∧
    ∀ loaded, load config text = .ok loaded ↔ config.validate = .ok () ∧
      (∃ count, checkFormat config text = .ok count) ∧
      (∃ numbered ∈ examined, Parses config numbered.1) ∧ loaded = report := by
  intro examined report
  have counted : report.graph.size + report.issues.length =
      examined.countP fun numbered => ¬Blank config numbered.1 := size_add_issues config text
  have folded : report = examined.foldl (Report.examine config) .empty :=
    parse_eq_foldl_examine config text
  refine ⟨folded, checkFormat_eq_emptyText_iff config text, refused_iff_nothingExamined config text,
    ?_, firstDataRow_counts, counted ▸ List.countP_le_length, ?_, checkFormat_of_some, ?_⟩
  · intro none
    rw [folded, none]
    exact ⟨rfl, rfl⟩
  · rw [counted, List.countP_eq_length]
    simp
  · intro loaded
    rw [load_eq_ok_iff, isEmpty_eq_false_iff_parses, eq_comm (a := loaded)]

theorem checkFormat_atLimit :
    let text := "at,tag,who,what,next\r\n1,END,,,\r\n  \r\n,,"
    let beyond : Config := { headerRow := 18446744073709551615 }
    (rows beyond text).length - firstDataRow beyond = 0 ∧
    (∃ found, checkFormat beyond text = .error (.noDataRows found)) ∧
    (parse beyond text).graph.size = 0 ∧ (parse beyond text).issues = [] ∧
    checkFormat {} text = .ok 3 ∧
    (parse {} text).graph.size + (parse {} text).issues.length ≠ (examined {} text).length ∧
    load {} text = .ok (parse {} text) := by
  intro text beyond
  obtain ⟨_, empty, refused, silent, counts, _⟩ := checkFormat_agreesWithParse beyond text
  have nothing : examined beyond text = [] := by decide +kernel
  obtain ⟨noGraph, noIssues⟩ := silent nothing
  obtain ⟨_, _, _, _, _, _, all, shape, loads⟩ := checkFormat_agreesWithParse {} text
  have three : (examined {} text).length = 3 := by decide +kernel
  obtain ⟨header, found, told⟩ := shape (by decide +kernel)
  obtain rfl : "at,tag,who,what,next" = header := by
    have first : (rows {} text)[0]? = some "at,tag,who,what,next" := by decide +kernel
    exact Option.some.inj (first.symm.trans found)
  have passed : checkFormat {} text = .ok 3 := by
    rw [told, three]
    decide +kernel
  refine ⟨?_, (refused.mpr nothing).resolve_left (empty.not.mpr (by decide)), noGraph, noIssues,
    passed, ?_, ?_⟩
  · rw [(counts (by decide) (by decide +kernel)).1, nothing]
    rfl
  · have blank : ("  ", 3) ∈ examined {} text := by decide +kernel
    intro same
    exact all.mp same _ blank (by decide)
  · have sound : ({} : Config).validate = .ok () := rfl
    have listed : ("1,END,,,", 2) ∈ examined {} text := by decide +kernel
    have ending : readRow {} (trimRow {} "1,END,,,") =
        .ok ⟨1, "END", "", "", none, "default"⟩ := by decide +kernel
    exact (loads _).mpr ⟨sound, ⟨3, passed⟩, ⟨_, listed, by decide, _, ending⟩, rfl⟩

end Table
end Playscript
