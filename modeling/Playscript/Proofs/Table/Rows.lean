import Playscript.Proofs.Text.Split
import Playscript.Table.Report

/-!
Rows and cells that were joined by the delimiters come apart again: the rows of a table are those
that were written, and the cells of a row as well, each without the blanks around it.
-/

namespace Playscript.Table

def RowText (config : Config) (row : String) : Prop :=
  ∀ c ∈ row.toList, c ≠ config.lineDelimiter ∧ c ≠ '\r'

/-- A text in which neither a cell nor a row ends. Blanks are welcome. -/
def CellText (config : Config) (cell : String) : Prop :=
  ∀ c ∈ cell.toList, c ≠ config.fieldDelimiter ∧ c ≠ config.lineDelimiter ∧ c ≠ '\r'

instance (config : Config) (row : String) : Decidable (RowText config row) :=
  List.decidableBAll (fun c => c ≠ config.lineDelimiter ∧ c ≠ '\r') row.toList

instance (config : Config) (cell : String) : Decidable (CellText config cell) :=
  List.decidableBAll
    (fun c => c ≠ config.fieldDelimiter ∧ c ≠ config.lineDelimiter ∧ c ≠ '\r') cell.toList

def joinCells (config : Config) (cells : List String) : String :=
  (String.singleton config.fieldDelimiter).intercalate cells

def joinRows (config : Config) (rows : List String) : String :=
  (String.singleton config.lineDelimiter).intercalate rows

theorem mem_intercalate {separator c : Char} {rows : List (List Char)}
    (listed : c ∈ [separator].intercalate rows) : c = separator ∨ ∃ row ∈ rows, c ∈ row := by
  induction rows with
  | nil => contradiction
  | cons row rest ih =>
      cases rest with
      | nil =>
          rw [List.intercalate_singleton] at listed
          exact Or.inr ⟨row, List.mem_cons_self, listed⟩
      | cons next more =>
          rw [List.intercalate_cons_cons, List.append_assoc, List.mem_append,
            List.singleton_append, List.mem_cons] at listed
          rcases listed with first | same | later
          · exact Or.inr ⟨row, List.mem_cons_self, first⟩
          · exact Or.inl same
          · rcases ih later with same | ⟨other, member, found⟩
            · exact Or.inl same
            · exact Or.inr ⟨other, List.mem_cons_of_mem row member, found⟩

theorem map_ofList_map_toList (texts : List String) :
    (texts.map String.toList).map String.ofList = texts := by
  simp

theorem rows_joinRows {config : Config} {written : List String}
    (each : ∀ row ∈ written, row ≠ "" ∧ RowText config row) (nonempty : written ≠ []) :
    rows config (joinRows config written) = written := by
  have free : ∀ row ∈ written.map String.toList, ∀ c ∈ row, endsRow config c = false := by
    intro row listed c found
    obtain ⟨text, member, rfl⟩ := List.mem_map.mp listed
    obtain ⟨noLine, noReturn⟩ := (each text member).2 c found
    simp [endsRow, noLine, noReturn]
  have apart : Text.pieces (endsRow config) (joinRows config written).toList =
      written.map String.toList := by
    rw [joinRows, String.toList_intercalate, String.toList_singleton]
    exact Text.pieces_intercalate (by simp [endsRow]) free (by simpa using nonempty)
  have kept : (written.map String.toList).filter (fun row => !row.isEmpty) =
      written.map String.toList := by
    rw [List.filter_eq_self]
    intro row listed
    obtain ⟨text, member, rfl⟩ := List.mem_map.mp listed
    simpa using (each text member).1
  rw [rows, apart, kept, map_ofList_map_toList]

/-- The cells of a row: no field delimiter is in any of them, and it joins them to the row. -/
structure Cut (config : Config) (row : String) (cells : List String) : Prop where
  nonempty : cells ≠ []
  whole : ∀ cell ∈ cells, config.fieldDelimiter ∉ cell.toList
  joined : joinCells config cells = row

theorem Cut.rawCells_eq {config : Config} {row : String} {cells : List String}
    (cut : Cut config row cells) : rawCells config row = cells := by
  have free : ∀ cell ∈ cells.map String.toList, ∀ c ∈ cell,
      (c == config.fieldDelimiter) = false := by
    intro cell listed c found
    obtain ⟨text, member, rfl⟩ := List.mem_map.mp listed
    have apart : c ≠ config.fieldDelimiter := fun same => cut.whole text member (same ▸ found)
    simpa using apart
  have apart : Text.pieces (· == config.fieldDelimiter) (joinCells config cells).toList =
      cells.map String.toList := by
    rw [joinCells, String.toList_intercalate, String.toList_singleton]
    exact Text.pieces_intercalate (by simp) free (by simpa using cut.nonempty)
  rw [← cut.joined, rawCells, apart, map_ofList_map_toList]

theorem cut_rawCells (config : Config) (row : String) :
    Cut config row (rawCells config row) where
  nonempty := by simpa [rawCells] using Text.pieces_ne_nil _ row.toList
  whole cell listed := by
    obtain ⟨piece, member, rfl⟩ := List.mem_map.mp listed
    intro found
    rw [String.toList_ofList] at found
    simpa using Text.kept_of_mem_pieces member _ found
  joined := by
    rw [← String.toList_inj, joinCells, String.toList_intercalate, String.toList_singleton]
    have same : (rawCells config row).map String.toList =
        Text.pieces (· == config.fieldDelimiter) row.toList := by
      simp [rawCells]
    rw [same, Text.intercalate_pieces]

theorem cells_eq (config : Config) (row : String) :
    cells config row = ((Text.pieces (· == config.fieldDelimiter) row.toList).map
      (Text.strip Text.isBlank)).map String.ofList := by
  simp [cells, rawCells, Text.trim]

theorem cells_trimRow (config : Config) (row : String) :
    cells config (trimRow config row) = cells config row := by
  have blanks : ∀ c, (Text.isBlank c && c != config.fieldDelimiter) = true →
      Text.isBlank c = true := by
    intro c removed
    exact (Bool.and_eq_true_iff.mp removed).1
  have spared : ∀ c, (Text.isBlank c && c != config.fieldDelimiter) = true →
      (c == config.fieldDelimiter) = false := by
    intro c removed
    simpa using (Bool.and_eq_true_iff.mp removed).2
  rw [cells_eq, cells_eq, trimRow, String.toList_ofList, Text.strip_pieces_strip blanks spared]

theorem readRow_trimRow (config : Config) (row : String) :
    readRow config (trimRow config row) = readRow config row := by
  simp only [readRow, cells_trimRow]

theorem cut_joinCells {config : Config} {written : List String}
    (each : ∀ cell ∈ written, CellText config cell) (nonempty : written ≠ []) :
    Cut config (joinCells config written) written :=
  ⟨nonempty, fun cell listed found => (each cell listed _ found).1 rfl, rfl⟩

theorem cells_joinCells {config : Config} {written : List String}
    (each : ∀ cell ∈ written, CellText config cell) (nonempty : written ≠ []) :
    cells config (trimRow config (joinCells config written)) = written.map Text.trim := by
  rw [cells_trimRow, cells, (cut_joinCells each nonempty).rawCells_eq]

theorem cellAt_map_trim (written : List String) (column : Nat) :
    cellAt (written.map Text.trim) column = Text.trim (cellAt written column) := by
  cases found : written[column]? with
  | none => simp [cellAt, found, Text.trim, Text.strip, Text.dropEnd]
  | some cell => simp [cellAt, found]

theorem rowText_joinCells {config : Config} {written : List String}
    (each : ∀ cell ∈ written, CellText config cell)
    (lineDiffers : config.fieldDelimiter ≠ config.lineDelimiter)
    (returnDiffers : config.fieldDelimiter ≠ '\r') :
    RowText config (joinCells config written) := by
  intro c found
  rw [joinCells, String.toList_intercalate, String.toList_singleton] at found
  rcases mem_intercalate found with rfl | ⟨cell, listed, inside⟩
  · exact ⟨lineDiffers, returnDiffers⟩
  · obtain ⟨text, member, rfl⟩ := List.mem_map.mp listed
    exact (each text member c inside).2

theorem length_rawCells (config : Config) (row : String) :
    (rawCells config row).length = row.toList.count config.fieldDelimiter + 1 := by
  rw [rawCells, List.length_map, Text.length_pieces]
  rfl

end Playscript.Table
