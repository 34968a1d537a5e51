import Playscript.Proofs.Graph.Insert
import Playscript.Proofs.Table.Playable

/-!
What becomes of the rows of a script. Every row after the header that is not blank adds a record or
an issue, and never both counts: a row that is refused gives an issue, and of the rows that are read
the last at an address has its record in the graph, each later one giving an issue for the record
that it replaces.
-/

namespace Playscript.Table

/-- The rows after the header, without the blanks around them and without the blank ones. -/
def tableRows (config : Config) (text : String) : List String :=
  (((rows config text).drop (config.headerRow + 1)).map (trimRow config)).filter (!·.isEmpty)

/-- A row after the header that is not blank, at its place among all rows counted from one. -/
structure DataRow (config : Config) (text : String) (line : Nat) (row : String) : Prop where
  place : config.headerRow + 1 < line
  written : ∃ raw, (rows config text)[line - 1]? = some raw ∧ trimRow config raw = row
  notBlank : row ≠ ""

def readRecords (config : Config) (rows : List String) : List Record :=
  rows.filterMap fun row => (readRow config row).toOption

def recordsAt (config : Config) (rows : List String) (address : Address) : List Record :=
  (readRecords config rows).filter fun record => record.address = address

def ReadBefore (config : Config) (holds : Nat → String → Prop) (line : Nat) (address : Address) :
    Prop :=
  ∃ earlier row record, holds earlier row ∧ earlier < line ∧ readRow config row = .ok record ∧
    record.address = address

/-- What is found at a row: why it is refused, or its address when an earlier row was read with the
same. -/
inductive Finds (config : Config) (holds : Nat → String → Prop) (line : Nat) (row : String) :
    Finding → Prop
  | refused {fault : RowFault} : readRow config row = .error fault →
      Finds config holds line row (.refused fault)
  | replaced {record : Record} : readRow config row = .ok record →
      ReadBefore config holds line record.address →
      Finds config holds line row (.replaced record.address)

variable {config : Config} {text : String}

theorem mem_numbered_iff (written : List String) (line : Nat) (raw : String) :
    (raw, line) ∈ (written.zipIdx 1).drop (config.headerRow + 1) ↔
      config.headerRow + 1 < line ∧ written[line - 1]? = some raw := by
  rw [List.mem_iff_getElem?]
  simp only [List.getElem?_drop, List.getElem?_zipIdx, Option.map_eq_some_iff, Prod.mk.injEq]
  constructor
  · rintro ⟨index, found, listed, rfl, rfl⟩
    have place : 1 + (config.headerRow + 1 + index) - 1 = config.headerRow + 1 + index := by omega
    exact ⟨by omega, by rw [place, listed]⟩
  · rintro ⟨after, listed⟩
    have place : config.headerRow + 1 + (line - 1 - (config.headerRow + 1)) = line - 1 := by omega
    refine ⟨line - 1 - (config.headerRow + 1), raw, ?_, rfl, ?_⟩
    · rw [place, listed]
    · omega

def placed? (config : Config) (numbered : String × Nat) : Option (Nat × String) :=
  let row := trimRow config numbered.1
  if row.isEmpty then none else some (numbered.2, row)

theorem dataRows_eq (config : Config) (text : String) :
    dataRows config text =
      (((rows config text).zipIdx 1).drop (config.headerRow + 1)).filterMap (placed? config) :=
  rfl

theorem placed?_eq_some_iff (config : Config) (numbered : String × Nat) (line : Nat)
    (row : String) :
    placed? config numbered = some (line, row) ↔
      numbered.2 = line ∧ trimRow config numbered.1 = row ∧ row ≠ "" := by
  by_cases blank : trimRow config numbered.1 = ""
  · simp only [placed?, String.isEmpty_iff, blank, if_true, reduceCtorEq, false_iff]
    rintro ⟨_, rfl, written⟩
    exact written rfl
  · simp only [placed?, String.isEmpty_iff, blank, if_false, Option.some.injEq, Prod.mk.injEq]
    constructor
    · rintro ⟨rfl, rfl⟩
      exact ⟨rfl, rfl, blank⟩
    · rintro ⟨rfl, rfl, _⟩
      exact ⟨rfl, rfl⟩

theorem mem_dataRows_iff (config : Config) (text : String) (line : Nat) (row : String) :
    (line, row) ∈ dataRows config text ↔ DataRow config text line row := by
  simp only [dataRows_eq, List.mem_filterMap, placed?_eq_some_iff]
  constructor
  · rintro ⟨⟨raw, place⟩, listed, rfl, trimmed, written⟩
    obtain ⟨after, found⟩ := (mem_numbered_iff _ _ _).mp listed
    exact ⟨after, ⟨raw, found, trimmed⟩, written⟩
  · rintro ⟨after, ⟨raw, found, trimmed⟩, written⟩
    exact ⟨(raw, line), (mem_numbered_iff _ _ _).mpr ⟨after, found⟩, rfl, trimmed, written⟩

theorem dataRows_ordered (config : Config) (text : String) :
    (dataRows config text).Pairwise fun one other => one.1 < other.1 := by
  have numbered : ((rows config text).zipIdx 1).Pairwise fun one other => one.2 < other.2 := by
    have places := List.pairwise_lt_range' (s := 1) (n := (rows config text).length)
    rw [← List.zipIdx_map_snd, List.pairwise_map] at places
    exact places
  rw [dataRows_eq]
  refine (numbered.sublist (List.drop_sublist _ _)).filterMap _ ?_
  rintro one other before ⟨line, row⟩ made ⟨otherLine, otherRow⟩ otherMade
  obtain ⟨rfl, _⟩ := (placed?_eq_some_iff _ _ _ _).mp made
  obtain ⟨rfl, _⟩ := (placed?_eq_some_iff _ _ _ _).mp otherMade
  exact before

theorem map_snd_placed (config : Config) (numbered : List (String × Nat)) :
    (numbered.filterMap (placed? config)).map Prod.snd =
      ((numbered.map Prod.fst).map (trimRow config)).filter (!·.isEmpty) := by
  induction numbered with
  | nil => rfl
  | cons first rest ih =>
      by_cases blank : trimRow config first.1 = ""
      · simpa [List.filterMap_cons, placed?, blank] using ih
      · simpa [List.filterMap_cons, placed?, blank] using ih

theorem map_snd_dataRows (config : Config) (text : String) :
    (dataRows config text).map Prod.snd = tableRows config text := by
  rw [dataRows_eq, map_snd_placed, List.map_drop, List.zipIdx_map_fst]
  rfl

theorem recordsAt_append (config : Config) (earlier later : List String) (address : Address) :
    recordsAt config (earlier ++ later) address =
      recordsAt config earlier address ++ recordsAt config later address := by
  simp [recordsAt, readRecords]

theorem recordsAt_of_error {row : String} {fault : RowFault}
    (refused : readRow config row = .error fault) (address : Address) :
    recordsAt config [row] address = [] := by
  simp [recordsAt, readRecords, refused, Except.toOption]

theorem recordsAt_of_ok {row : String} {record : Record} (read : readRow config row = .ok record)
    (address : Address) :
    recordsAt config [row] address = if record.address = address then [record] else [] := by
  by_cases here : record.address = address
  · simp [recordsAt, readRecords, read, Except.toOption, here]
  · simp [recordsAt, readRecords, read, Except.toOption, here]

theorem mem_recordsAt_iff (config : Config) (rows : List String) (address : Address)
    (record : Record) :
    record ∈ recordsAt config rows address ↔
      (∃ row ∈ rows, readRow config row = .ok record) ∧ record.address = address := by
  have read (row : String) :
      (readRow config row).toOption = some record ↔ readRow config row = .ok record := by
    cases readRow config row <;> simp [Except.toOption]
  simp [recordsAt, readRecords, read]

theorem readBefore_concat_iff {before : List (Nat × String)} {last : Nat × String} {line : Nat}
    (notBefore : line ≤ last.1) (address : Address) :
    ReadBefore config (fun line row => (line, row) ∈ before ++ [last]) line address ↔
      ReadBefore config (fun line row => (line, row) ∈ before) line address := by
  constructor
  · rintro ⟨earlier, row, record, listed, isBefore, read⟩
    rcases List.mem_append.1 listed with known | isLast
    · exact ⟨earlier, row, record, known, isBefore, read⟩
    · -- A row that does not stand before the place has no part in what was read before it.
      obtain rfl := List.mem_singleton.1 isLast
      exact absurd isBefore (Nat.not_lt.mpr notBefore)
  · rintro ⟨earlier, row, record, known, read⟩
    exact ⟨earlier, row, record, List.mem_append_left _ known, read⟩

theorem finds_of_error {holds : Nat → String → Prop} {line : Nat} {row : String}
    {fault : RowFault} (refused : readRow config row = .error fault) (finding : Finding) :
    Finds config holds line row finding ↔ finding = .refused fault := by
  constructor
  · intro finds
    cases finds with
    | refused same =>
        rw [refused] at same
        rw [Except.error.inj same]
    | replaced read =>
        rw [refused] at read
        contradiction
  · rintro rfl
    exact .refused refused

theorem finds_of_ok {holds : Nat → String → Prop} {line : Nat} {row : String} {record : Record}
    (read : readRow config row = .ok record) (finding : Finding) :
    Finds config holds line row finding ↔
      finding = .replaced record.address ∧ ReadBefore config holds line record.address := by
  constructor
  · intro finds
    cases finds with
    | refused refused =>
        rw [read] at refused
        contradiction
    | replaced same taken =>
        rw [read] at same
        obtain rfl := Except.ok.inj same
        exact ⟨rfl, taken⟩
  · rintro ⟨rfl, taken⟩
    exact .replaced read taken

theorem finds_concat_iff {before : List (Nat × String)} {last : Nat × String} {line : Nat}
    {row : String} {finding : Finding} (notBefore : line ≤ last.1) :
    Finds config (fun line row => (line, row) ∈ before ++ [last]) line row finding ↔
      Finds config (fun line row => (line, row) ∈ before) line row finding := by
  cases read : readRow config row with
  | error fault => rw [finds_of_error read, finds_of_error read]
  | ok record => rw [finds_of_ok read, finds_of_ok read, readBefore_concat_iff notBefore]

theorem issue_eq_iff (issue : Issue) (line : Nat) (row : String) (finding : Finding) :
    issue = ⟨line, row, finding⟩ ↔
      issue.line = line ∧ issue.row = row ∧ issue.finding = finding := by
  cases issue
  simp

/-- What a report tells of the rows it was made from, which are given with their places. -/
structure Accounts (config : Config) (rows : List (Nat × String)) (report : Report) : Prop where
  count : report.graph.size + report.issues.length = rows.length
  ordered : report.issues.Pairwise fun one other => one.line < other.line
  found (issue : Issue) : issue ∈ report.issues ↔ (issue.line, issue.row) ∈ rows ∧
    Finds config (fun line row => (line, row) ∈ rows) issue.line issue.row issue.finding
  latest (address : Address) :
    report.graph.get? address = (recordsAt config (rows.map Prod.snd) address).getLast?

namespace Accounts

variable {before : List (Nat × String)} {report : Report} {line : Nat} {row : String}

theorem empty (config : Config) : Accounts config [] .empty where
  count := rfl
  ordered := List.Pairwise.nil
  found issue := by simp [Report.empty]
  latest address := rfl

theorem concat_found (accounts : Accounts config before report)
    (later : ∀ earlier ∈ before, earlier.1 < line) {issues : List Issue}
    (grown : ∀ issue, issue ∈ issues ↔ issue ∈ report.issues ∨ issue.line = line ∧
      issue.row = row ∧ Finds config (fun line row => (line, row) ∈ before) line row issue.finding)
    (issue : Issue) :
    issue ∈ issues ↔ (issue.line, issue.row) ∈ before ++ [(line, row)] ∧
      Finds config (fun place text => (place, text) ∈ before ++ [(line, row)]) issue.line issue.row
        issue.finding := by
  rw [grown, accounts.found, List.mem_append, List.mem_singleton]
  constructor
  · rintro (⟨listed, finds⟩ | ⟨rfl, rfl, finds⟩)
    · have notLater := Nat.le_of_lt (later _ listed)
      exact ⟨Or.inl listed, (finds_concat_iff notLater).mpr finds⟩
    · exact ⟨Or.inr rfl, (finds_concat_iff (Nat.le_refl _)).mpr finds⟩
  · rintro ⟨listed | isLast, finds⟩
    · have notLater := Nat.le_of_lt (later _ listed)
      exact Or.inl ⟨listed, (finds_concat_iff notLater).mp finds⟩
    · obtain ⟨rfl, rfl⟩ := Prod.mk.inj isLast
      exact Or.inr ⟨rfl, rfl, (finds_concat_iff (Nat.le_refl _)).mp finds⟩

theorem concat_ordered (accounts : Accounts config before report)
    (later : ∀ earlier ∈ before, earlier.1 < line) (finding : Finding) :
    (report.issues ++ [(⟨line, row, finding⟩ : Issue)]).Pairwise
      fun one other => one.line < other.line := by
  rw [List.pairwise_append]
  refine ⟨accounts.ordered, List.pairwise_singleton _ _, ?_⟩
  -- Every issue so far is at a row so far, and they all stand before this one.
  intro issue listed last isLast
  obtain rfl := List.mem_singleton.1 isLast
  exact later _ ((accounts.found issue).mp listed).1

theorem refuse (accounts : Accounts config before report)
    (later : ∀ earlier ∈ before, earlier.1 < line) {fault : RowFault}
    (refused : readRow config row = .error fault) :
    Accounts config (before ++ [(line, row)]) (report.addRow config line row) := by
  have added : report.addRow config line row =
      ⟨report.graph, report.issues ++ [⟨line, row, .refused fault⟩]⟩ := by
    simp [Report.addRow, refused, Report.push]
  rw [added]
  constructor
  · simp [← accounts.count, Nat.add_assoc]
  · exact accounts.concat_ordered later _
  · apply accounts.concat_found later
    intro issue
    simp [finds_of_error refused, issue_eq_iff]
  · intro address
    rw [List.map_append, recordsAt_append]
    simp [recordsAt_of_error refused, accounts.latest]

theorem latest_insert (accounts : Accounts config before report) {record : Record}
    (read : readRow config row = .ok record) (address : Address) :
    (report.graph.insert record).get? address =
      (recordsAt config ((before ++ [(line, row)]).map Prod.snd) address).getLast? := by
  have last : ([(line, row)] : List (Nat × String)).map Prod.snd = [row] := rfl
  rw [Graph.get?_insert, List.map_append, recordsAt_append, last, recordsAt_of_ok read]
  split
  · rw [List.getLast?_concat]
  · rw [List.append_nil, accounts.latest]

theorem readBefore_iff (accounts : Accounts config before report)
    (later : ∀ earlier ∈ before, earlier.1 < line) (address : Address) :
    ReadBefore config (fun line row => (line, row) ∈ before) line address ↔
      report.graph.get? address ≠ none := by
  -- The graph has a record there exactly when some row so far was read there.
  rw [accounts.latest, Ne, List.getLast?_eq_none_iff]
  constructor
  · rintro ⟨earlier, row, record, listed, _, read, here⟩
    have told : ∃ row ∈ before.map Prod.snd, readRow config row = .ok record :=
      ⟨row, List.mem_map_of_mem listed, read⟩
    exact List.ne_nil_of_mem ((mem_recordsAt_iff _ _ _ _).mpr ⟨told, here⟩)
  · intro nonempty
    obtain ⟨record, told⟩ := List.exists_mem_of_ne_nil _ nonempty
    obtain ⟨⟨_, rowListed, read⟩, here⟩ := (mem_recordsAt_iff _ _ _ _).mp told
    obtain ⟨⟨earlier, row⟩, listed, rfl⟩ := List.mem_map.1 rowListed
    exact ⟨earlier, row, record, listed, later _ listed, read, here⟩

theorem accept_fresh (accounts : Accounts config before report)
    (later : ∀ earlier ∈ before, earlier.1 < line) {record : Record}
    (read : readRow config row = .ok record) (fresh : report.graph.get? record.address = none) :
    Accounts config (before ++ [(line, row)]) (report.addRow config line row) := by
  have added : report.addRow config line row = ⟨report.graph.insert record, report.issues⟩ := by
    simp [Report.addRow, read, Graph.replace, fresh]
  rw [added]
  constructor
  · rw [Graph.size_insert_of_fresh fresh, List.length_append, ← accounts.count]
    simp only [List.length_singleton]
    omega
  · exact accounts.ordered
  · apply accounts.concat_found later
    intro issue
    simp [finds_of_ok read, accounts.readBefore_iff later, fresh]
  · exact accounts.latest_insert read

theorem accept_taken (accounts : Accounts config before report)
    (later : ∀ earlier ∈ before, earlier.1 < line) {record other : Record}
    (read : readRow config row = .ok record)
    (taken : report.graph.get? record.address = some other) :
    Accounts config (before ++ [(line, row)]) (report.addRow config line row) := by
  have added : report.addRow config line row =
      ⟨report.graph.insert record, report.issues ++ [⟨line, row, .replaced record.address⟩]⟩ := by
    simp [Report.addRow, read, Graph.replace, taken, Report.push]
  rw [added]
  constructor
  · simp [Graph.size_insert_of_taken taken, ← accounts.count, Nat.add_assoc]
  · exact accounts.concat_ordered later _
  · apply accounts.concat_found later
    intro issue
    simp [finds_of_ok read, accounts.readBefore_iff later, taken, issue_eq_iff]
  · exact accounts.latest_insert read

/-- The step lemma: one more row is accounted for as well. -/
theorem addRow (accounts : Accounts config before report)
    (later : ∀ earlier ∈ before, earlier.1 < line) :
    Accounts config (before ++ [(line, row)]) (report.addRow config line row) := by
  cases read : readRow config row with
  | error fault => exact accounts.refuse later read
  | ok record =>
      cases taken : report.graph.get? record.address with
      | none => exact accounts.accept_fresh later read taken
      | some other => exact accounts.accept_taken later read taken

/-- The run lemma, by induction on the rows that are still to come: so are all rows. -/
theorem foldl_addRow (accounts : Accounts config before report) {rows : List (Nat × String)}
    (ordered : (before ++ rows).Pairwise fun one other => one.1 < other.1) :
    Accounts config (before ++ rows)
      (rows.foldl (fun report row => report.addRow config row.1 row.2) report) := by
  induction rows generalizing before report with
  | nil => simpa using accounts
  | cons row rest ih =>
      have later : ∀ earlier ∈ before, earlier.1 < row.1 := by
        intro earlier listed
        exact (List.pairwise_append.1 ordered).2.2 earlier listed row List.mem_cons_self
      rw [List.append_cons] at ordered ⊢
      exact ih (accounts.addRow later) ordered

end Accounts

theorem parse_accounts (config : Config) (text : String) :
    Accounts config (dataRows config text) (parse config text) :=
  (Accounts.empty config).foldl_addRow (dataRows_ordered config text)

theorem DataRow.unique {line : Nat} {row other : String} (first : DataRow config text line row)
    (second : DataRow config text line other) : row = other := by
  obtain ⟨raw, found, rfl⟩ := first.written
  obtain ⟨otherRaw, otherFound, rfl⟩ := second.written
  rw [found] at otherFound
  rw [Option.some.inj otherFound]

/-- No row is lost: each that is not blank gives a record or an issue, and the last at an address is
kept. -/
theorem parse_losesNoRow (config : Config) (text : String) :
    let report := parse config text
    report.graph.size + report.issues.length = (tableRows config text).length ∧
    report.issues.Pairwise (fun one other => one.line < other.line) ∧
    (∀ issue, issue ∈ report.issues ↔ DataRow config text issue.line issue.row ∧
      Finds config (DataRow config text) issue.line issue.row issue.finding) ∧
    (∀ line row fault, DataRow config text line row → readRow config row = .error fault →
      ∃! issue, issue ∈ report.issues ∧ issue.line = line ∧ issue.skipped = true) ∧
    (∀ address, report.graph.get? address =
      (recordsAt config (tableRows config text) address).getLast?) ∧
    ∀ other, (∀ address, recordsAt config (tableRows config other) address =
        recordsAt config (tableRows config text) address) →
      (parse config other).graph = report.graph := by
  intro report
  have accounts : Accounts config (dataRows config text) report := parse_accounts config text
  have found := accounts.found
  simp only [mem_dataRows_iff] at found
  refine ⟨?_, accounts.ordered, found, ?_, ?_, ?_⟩
  · rw [accounts.count, ← map_snd_dataRows, List.length_map]
  · intro line row fault holds refused
    refine ⟨⟨line, row, .refused fault⟩, ?_, ?_⟩
    · exact ⟨(found _).mpr ⟨holds, .refused refused⟩, rfl, rfl⟩
    · rintro issue ⟨listed, rfl, _⟩
      obtain ⟨there, finds⟩ := (found issue).mp listed
      obtain rfl := there.unique holds
      exact (issue_eq_iff _ _ _ _).mpr ⟨rfl, rfl, (finds_of_error refused _).mp finds⟩
  · intro address
    rw [accounts.latest, map_snd_dataRows]
  · intro other same
    apply Graph.ext_get?
    intro address
    rw [(parse_accounts config other).latest, accounts.latest, map_snd_dataRows, map_snd_dataRows,
      same]

/-- A blank row, a row without an address, and one that takes the place of the first. -/
def patchwork : String :=
  "at,tag,who,what,next\n1,W,Ann,Hi,2\n  \nx,W,,,2\n 1,T,,Again,2\n2,END,,,"

theorem parse_patchwork :
    let report := parse {} patchwork
    let sorted := "at,tag,who,what,next\n2,END,,,\n1,W,Ann,Hi,2\n1,T,,Again,2"
    tableRows {} patchwork = ["1,W,Ann,Hi,2", "x,W,,,2", "1,T,,Again,2", "2,END,,,"] ∧
    report.graph.size + report.issues.length = 4 ∧
    ⟨5, "1,T,,Again,2", .replaced 1⟩ ∈ report.issues ∧
    (∃! issue, issue ∈ report.issues ∧ issue.line = 4 ∧ issue.skipped = true) ∧
    report.graph.get? 1 = some ⟨1, "T", "", "Again", some 2, "default"⟩ ∧
    (parse {} sorted).graph = report.graph := by
  intro report sorted
  have rows : tableRows {} patchwork =
      ["1,W,Ann,Hi,2", "x,W,,,2", "1,T,,Again,2", "2,END,,,"] := by decide +kernel
  let greeting : Record := ⟨1, "W", "Ann", "Hi", some 2, "default"⟩
  let again : Record := ⟨1, "T", "", "Again", some 2, "default"⟩
  let ending : Record := ⟨2, "END", "", "", none, "default"⟩
  have read : readRecords {} (tableRows {} patchwork) = [greeting, again, ending] := by
    decide +kernel
  have readSorted : readRecords {} (tableRows {} sorted) = [ending, greeting, again] := by
    decide +kernel
  have fifth : DataRow {} patchwork 5 "1,T,,Again,2" :=
    ⟨by decide, ⟨" 1,T,,Again,2", by decide +kernel, by decide +kernel⟩, by decide⟩
  have second : DataRow {} patchwork 2 "1,W,Ann,Hi,2" :=
    ⟨by decide, ⟨"1,W,Ann,Hi,2", by decide +kernel, by decide +kernel⟩, by decide⟩
  have fourth : DataRow {} patchwork 4 "x,W,,,2" :=
    ⟨by decide, ⟨"x,W,,,2", by decide +kernel, by decide +kernel⟩, by decide⟩
  have refused : readRow {} "x,W,,,2" = .error (.invalidAddress "x") := by decide +kernel
  have readAgain : readRow {} "1,T,,Again,2" = .ok again := by decide +kernel
  have readBefore : ReadBefore {} (DataRow {} patchwork) 5 1 :=
    ⟨2, "1,W,Ann,Hi,2", greeting, second, by decide, by decide +kernel, rfl⟩
  have same : ∀ address, recordsAt {} (tableRows {} sorted) address =
      recordsAt {} (tableRows {} patchwork) address := by
    intro address
    rw [recordsAt, recordsAt, read, readSorted]
    by_cases first : address = 1
    · subst first
      decide
    · simp [List.filter_cons, greeting, again, ending, Ne.symm first]
  obtain ⟨count, _, found, once, latest, depends⟩ := parse_losesNoRow {} patchwork
  refine ⟨rows, ?_, ?_, once 4 _ _ fourth refused, ?_, depends sorted same⟩
  · rw [count, rows]
    rfl
  · exact (found _).mpr ⟨fifth, .replaced readAgain readBefore⟩
  · rw [latest, recordsAt, read]
    decide

end Playscript.Table
