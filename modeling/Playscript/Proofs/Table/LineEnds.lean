import Mathlib.Logic.Relation
import Playscript.Proofs.Table.Examined
import Playscript.Proofs.Table.Rows
import Playscript.Proofs.Text.Stretch

/-!
How the rows of a text are kept apart. Line delimiters and carriage returns end rows and do nothing
else, so it does not matter which of them stand between two rows, nor how many; and a blank row
after the header does no more than move the rows below it down.
-/

namespace Playscript.Table

def RowEnds (config : Config) (text : String) : Prop :=
  ∀ c ∈ text.toList, c = config.lineDelimiter ∨ c = '\r'

instance (config : Config) (text : String) : Decidable (RowEnds config text) :=
  List.decidableBAll (fun c => c = config.lineDelimiter ∨ c = '\r') text.toList

/-- A stretch of the text that begins here, without a row end in it and with one on either side. -/
def RowAt (config : Config) (text : String) (start : Nat) (row : String) : Prop :=
  Text.Stretch (endsRow config) text.toList start row.toList

/-- The row ends somewhere in a text are exchanged for others, or some are put at its beginning or
at its end. -/
inductive Reended (config : Config) : String → String → Prop
  | exchange {old new : String} (before after : String) : RowEnds config old → RowEnds config new →
      old ≠ "" → new ≠ "" → Reended config (before ++ old ++ after) (before ++ new ++ after)
  | atStart {added : String} (text : String) : RowEnds config added →
      Reended config text (added ++ text)
  | atEnd {added : String} (text : String) : RowEnds config added →
      Reended config text (text ++ added)

/-- A row is put in between two of the text or at an end, with the row ends that it needs. -/
inductive RowAdded (config : Config) (row : String) : String → String → Nat → Prop
  | put {before gap left right after : String} : RowEnds config gap → RowEnds config left →
      RowEnds config right → gap ≠ "" ∨ before = "" ∨ after = "" → left ≠ "" ∨ before = "" →
      right ≠ "" ∨ after = "" →
      RowAdded config row (before ++ gap ++ after) (before ++ left ++ row ++ right ++ after)
        (rows config before).length

def Issue.moved (move : Nat → Nat) (issue : Issue) : Issue :=
  { issue with line := move issue.line }

def Report.moved (move : Nat → Nat) (report : Report) : Report :=
  { report with issues := report.issues.map (Issue.moved move) }

def makeRoom (behind line : Nat) : Nat :=
  if line ≤ behind then line else line + 1

variable {config : Config} {text other longer row before gap after : String} {place : Nat}

theorem endsRow_eq_true_iff (config : Config) (c : Char) :
    endsRow config c = true ↔ c = config.lineDelimiter ∨ c = '\r' := by
  simp [endsRow]

theorem rows_eq_stretches (config : Config) (text : String) :
    rows config text = (Text.stretches (endsRow config) text.toList).map String.ofList :=
  rfl

theorem RowEnds.breaks (ends : RowEnds config gap) :
    ∀ c ∈ gap.toList, endsRow config c = true := by
  intro c listed
  exact (endsRow_eq_true_iff config c).mpr (ends c listed)

theorem rows_around (ends : RowEnds config gap) (apart : gap ≠ "" ∨ before = "" ∨ after = "") :
    rows config (before ++ gap ++ after) = rows config before ++ rows config after := by
  simp only [rows_eq_stretches, String.toList_append]
  rw [Text.stretches_around ends.breaks (by simpa using apart), List.map_append]

theorem rows_ends_append (ends : RowEnds config gap) (text : String) :
    rows config (gap ++ text) = rows config text := by
  have around : rows config ("" ++ gap ++ text) = rows config "" ++ rows config text :=
    rows_around ends (.inr (.inl rfl))
  simpa [rows_empty] using around

theorem rows_append_ends (ends : RowEnds config gap) (text : String) :
    rows config (text ++ gap) = rows config text := by
  have around : rows config (text ++ gap ++ "") = rows config text ++ rows config "" :=
    rows_around ends (.inr (.inr rfl))
  simpa [rows_empty] using around

theorem rows_single (whole : RowText config row) (written : row ≠ "") :
    rows config row = [row] := by
  have free : ∀ c ∈ row.toList, endsRow config c = false := by
    intro c listed
    obtain ⟨notDelimiter, notReturn⟩ := whole c listed
    simp [endsRow, notDelimiter, notReturn]
  rw [rows_eq_stretches, Text.stretches_of_free free (by simpa using written)]
  simp

theorem exists_placed_rows (config : Config) (text : String) :
    ∃ placed : List (Nat × String), placed.map Prod.snd = rows config text ∧
      placed.Pairwise (fun one other => one.1 < other.1) ∧
      ∀ start row, (start, row) ∈ placed ↔ RowAt config text start row := by
  obtain ⟨placed, all, ordered, each⟩ := Text.exists_placed_stretches (endsRow config) text.toList
  refine ⟨placed.map (Prod.map id String.ofList), ?_, ?_, ?_⟩
  · rw [rows_eq_stretches, ← all]
    simp
  · rw [List.pairwise_map]
    exact ordered
  · intro start row
    rw [RowAt, ← each, List.mem_map]
    constructor
    · rintro ⟨⟨there, stretch⟩, listed, same⟩
      obtain ⟨rfl, rfl⟩ := Prod.mk.inj same
      rwa [String.toList_ofList]
    · intro listed
      exact ⟨_, listed, by simp⟩

theorem Reended.rows_eq (reended : Reended config text other) :
    rows config other = rows config text := by
  cases reended with
  | exchange before after ends endsToo some someToo =>
      rw [rows_around ends (.inl some), rows_around endsToo (.inl someToo)]
  | atStart text ends => exact rows_ends_append ends text
  | atEnd text ends => exact rows_append_ends ends text

theorem Reended.written (reended : Reended config text other) (written : text ≠ "") :
    other ≠ "" := by
  cases reended with
  | exchange before after _ _ _ some => simp [some]
  | atStart _ _ => simp [written]
  | atEnd _ _ => simp [written]

/-- The run lemma: any number of such changes leave the rows as they are. -/
theorem reended_run (run : Relation.ReflTransGen (Reended config) text other)
    (written : text ≠ "") : rows config other = rows config text ∧ other ≠ "" := by
  induction run with
  | refl => exact ⟨rfl, written⟩
  | tail _ last ih => exact ⟨last.rows_eq.trans ih.1, last.written ih.2⟩

theorem checkFormat_congr (same : rows config other = rows config text) (written : text ≠ "")
    (otherWritten : other ≠ "") : checkFormat config other = checkFormat config text := by
  have empty : text.isEmpty = false := by simpa using written
  have otherEmpty : other.isEmpty = false := by simpa using otherWritten
  simp only [checkFormat, empty, otherEmpty, same]

theorem parse_congr (same : rows config other = rows config text) :
    parse config other = parse config text := by
  rw [parse, parse, dataRows, dataRows, same]

theorem load_congr (same : rows config other = rows config text) (written : text ≠ "")
    (otherWritten : other ≠ "") : load config other = load config text := by
  rw [load, load, checkFormat_congr same written otherWritten, parse_congr same]

namespace Report

@[simp] theorem moved_graph (move : Nat → Nat) (report : Report) :
    (report.moved move).graph = report.graph :=
  rfl

@[simp] theorem moved_issues (move : Nat → Nat) (report : Report) :
    (report.moved move).issues = report.issues.map (Issue.moved move) :=
  rfl

theorem push_moved (move : Nat → Nat) (report : Report) (issue : Issue) :
    (report.moved move).push (issue.moved move) = (report.push issue).moved move := by
  simp [push, moved]

theorem addRow_moved (config : Config) (move : Nat → Nat) (report : Report) (line : Nat)
    (row : String) :
    (report.moved move).addRow config (move line) row =
      (report.addRow config line row).moved move := by
  cases read : readRow config row with
  | error fault =>
      simp only [addRow, read]
      exact push_moved move report ⟨line, row, .refused fault⟩
  | ok record =>
      cases taken : (report.graph.replace record).1.isSome with
      | false =>
          simp only [addRow, read, moved_graph, taken]
          rfl
      | true =>
          simp only [addRow, read, moved_graph, taken]
          exact push_moved move { report with graph := (report.graph.replace record).2 }
            ⟨line, row, .replaced record.address⟩

theorem examine_moved (config : Config) (move : Nat → Nat) (report : Report)
    (numbered : String × Nat) :
    (report.moved move).examine config (Prod.map id move numbered) =
      (report.examine config numbered).moved move := by
  by_cases blank : Blank config numbered.1
  · simp [examine, blank]
  · simpa [examine, blank] using addRow_moved config move report _ _

theorem foldl_examine_moved (config : Config) (move : Nat → Nat) (report : Report)
    (numbered : List (String × Nat)) :
    (numbered.map (Prod.map id move)).foldl (examine config) (report.moved move) =
      (numbered.foldl (examine config) report).moved move := by
  induction numbered generalizing report with
  | nil => rfl
  | cons first rest ih =>
      rw [List.map_cons, List.foldl_cons, List.foldl_cons, examine_moved, ih]

end Report

theorem map_makeRoom_before (rows : List String) :
    (rows.zipIdx 1).map (Prod.map id (makeRoom rows.length)) = rows.zipIdx 1 := by
  have stays : ∀ numbered ∈ rows.zipIdx 1,
      Prod.map id (makeRoom rows.length) numbered = numbered := by
    rintro ⟨row, line⟩ listed
    have before := List.snd_lt_add_of_mem_zipIdx listed
    have room : makeRoom rows.length line = line := if_pos (by simp only at before; omega)
    rw [Prod.map_apply, room, id]
  rw [List.map_congr_left stays, List.map_id']

theorem map_makeRoom_after (rows : List String) (behind : Nat) :
    (rows.zipIdx (behind + 1)).map (Prod.map id (makeRoom behind)) = rows.zipIdx (behind + 2) := by
  rw [List.zipIdx_succ (l := rows) (i := behind + 1)]
  apply List.map_congr_left
  rintro ⟨row, line⟩ listed
  have after := List.le_snd_of_mem_zipIdx listed
  have room : makeRoom behind line = line + 1 := if_neg (by simp only at after; omega)
  rw [Prod.map_apply, room, id]

theorem RowAdded.rows_eq (added : RowAdded config row text longer place)
    (whole : RowText config row) (written : row ≠ "") :
    ∃ before after, before.length = place ∧ rows config text = before ++ after ∧
      rows config longer = before ++ row :: after := by
  cases added with
  | @put before gap left right after gapEnds leftEnds rightEnds apart leftApart rightApart =>
      refine ⟨rows config before, rows config after, rfl, rows_around gapEnds apart, ?_⟩
      have regroup : before ++ left ++ row ++ right ++ after =
          before ++ left ++ (row ++ right ++ after) := by
        simp only [String.append_assoc]
      rw [regroup, rows_around leftEnds (leftApart.imp_right .inl),
        rows_around rightEnds (rightApart.imp_right .inr), rows_single whole written]
      rfl

theorem RowAdded.examined_eq (added : RowAdded config row text longer place)
    (whole : RowText config row) (written : row ≠ "") (header : config.headerRow < place) :
    ∃ before after, examined config text = before ++ after ∧
      examined config longer = before.map (Prod.map id (makeRoom place)) ++
        (row, place + 1) :: after.map (Prod.map id (makeRoom place)) := by
  obtain ⟨before, after, rfl, here, there⟩ := added.rows_eq whole written
  have long : config.headerRow + 1 ≤ (before.zipIdx 1).length := by
    rw [List.length_zipIdx]
    exact header
  have next : 1 + before.length = before.length + 1 := Nat.add_comm _ _
  refine ⟨(before.zipIdx 1).drop (config.headerRow + 1), after.zipIdx (before.length + 1), ?_, ?_⟩
  · rw [examined, here, List.zipIdx_append, List.drop_append_of_le_length long, next]
  · rw [examined, there, List.zipIdx_append, List.drop_append_of_le_length long, next,
      List.zipIdx_cons, List.map_drop, map_makeRoom_before, map_makeRoom_after]

theorem parse_of_rowAdded (added : RowAdded config row text longer place)
    (whole : RowText config row) (written : row ≠ "") (blank : Blank config row)
    (header : config.headerRow < place) :
    parse config longer = (parse config text).moved (makeRoom place) := by
  obtain ⟨before, after, here, there⟩ := added.examined_eq whole written header
  have passed (report : Report) : report.examine config (row, place + 1) = report := if_pos blank
  rw [parse_eq_foldl_examine, parse_eq_foldl_examine, here, there, List.foldl_append,
    List.foldl_cons, passed, ← List.foldl_append, ← List.map_append]
  exact Report.foldl_examine_moved config (makeRoom place) .empty (before ++ after)

/-- The row ends between two rows can be exchanged for any others, and a blank row only moves the
places of issues. -/
theorem rows_ignoreLineEnds (config : Config) (text : String) :
    (∃ placed : List (Nat × String), placed.map Prod.snd = rows config text ∧
      placed.Pairwise (fun one other => one.1 < other.1) ∧
      ∀ start row, (start, row) ∈ placed ↔ RowAt config text start row) ∧
    (∀ other, text ≠ "" → Relation.ReflTransGen (Reended config) text other →
      rows config other = rows config text ∧
      checkFormat config other = checkFormat config text ∧
      parse config other = parse config text ∧ load config other = load config text) ∧
    ∀ row longer place, row ≠ "" → RowText config row → Blank config row →
      RowAdded config row text longer place → config.headerRow < place →
      (parse config longer).graph = (parse config text).graph ∧
      (parse config longer).issues =
        (parse config text).issues.map (Issue.moved (makeRoom place)) := by
  refine ⟨exists_placed_rows config text, ?_, ?_⟩
  · intro other written run
    obtain ⟨same, otherWritten⟩ := reended_run run written
    exact ⟨same, checkFormat_congr same written otherWritten, parse_congr same,
      load_congr same written otherWritten⟩
  · intro row longer place written whole blank added header
    rw [parse_of_rowAdded added whole written blank header]
    exact ⟨Report.moved_graph _ _, Report.moved_issues _ _⟩

theorem rows_ofMixedEnds :
    let text := "at,tag,who,what,next\n1,END,,,\nx,END,,,"
    let other := "\r\nat,tag,who,what,next\r\n\n\r1,END,,,\nx,END,,,"
    let longer := "at,tag,who,what,next\n1,END,,,\r\n  \nx,END,,,"
    rows {} other = ["at,tag,who,what,next", "1,END,,,", "x,END,,,"] ∧
    checkFormat {} other = .ok 2 ∧
    (parse {} other).issues = [⟨3, "x,END,,,", .refused (.invalidAddress "x")⟩] ∧
    load {} other = load {} text ∧
    (parse {} longer).graph = (parse {} text).graph ∧
    (parse {} longer).issues = [⟨4, "x,END,,,", .refused (.invalidAddress "x")⟩] := by
  intro text other longer
  have ends (gap : String) (only : gap ∈ ["\n", "\r\n", "\r\n\n\r"]) : RowEnds {} gap := by
    revert gap
    decide
  have first : Reended {} text "at,tag,who,what,next\r\n\n\r1,END,,,\nx,END,,," :=
    Reended.exchange "at,tag,who,what,next" "1,END,,,\nx,END,,," (ends "\n" (by decide))
      (ends "\r\n\n\r" (by decide)) (by decide) (by decide)
  have second : Reended {} "at,tag,who,what,next\r\n\n\r1,END,,,\nx,END,,," other :=
    Reended.atStart _ (ends "\r\n" (by decide))
  have added : RowAdded {} "  " text longer 2 :=
    @RowAdded.put {} "  " "at,tag,who,what,next\n1,END,,," "\n" "\r\n" "\n" "x,END,,,"
      (ends "\n" (by decide)) (ends "\r\n" (by decide)) (ends "\n" (by decide)) (.inl (by decide))
      (.inl (by decide)) (.inl (by decide))
  obtain ⟨_, ignored, moved⟩ := rows_ignoreLineEnds {} text
  obtain ⟨same, sameFormat, sameReport, sameLoaded⟩ :=
    ignored other (by decide) ((Relation.ReflTransGen.single first).tail second)
  obtain ⟨graph, issues⟩ :=
    moved "  " longer 2 (by decide) (by decide) (by decide) added (by decide)
  have told : (parse {} text).issues = [⟨3, "x,END,,,", .refused (.invalidAddress "x")⟩] := by
    decide +kernel
  refine ⟨?_, ?_, ?_, sameLoaded, graph, ?_⟩
  · rw [same]
    decide +kernel
  · rw [sameFormat]
    decide +kernel
  · rw [sameReport, told]
  · rw [issues, told]
    rfl

end Playscript.Table
