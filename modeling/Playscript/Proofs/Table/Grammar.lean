import Playscript.Proofs.Table.Written

/-!
The grammar of a row. Four things are asked of its cells, one after the other: a row that meets
them all is read, and any other is refused for the first that it does not meet.
-/

namespace Playscript

/-- No other part of a row stands in the column of the jump. -/
def Columns.JumpApart (columns : Columns) : Prop :=
  columns.jump ∉ [columns.address, columns.tag, columns.speaker, columns.body, columns.variant]

instance (columns : Columns) : Decidable columns.JumpApart :=
  inferInstanceAs (Decidable (_ ∉ _))

namespace Table

/-- Something that is asked of a row, and what is said of a row that does not meet it. -/
structure Demand where
  met : Prop
  fault : RowFault

def demands (config : Config) (cells : List String) : List Demand :=
  let address := Text.trim (cellAt cells config.columns.address)
  let tag := tagOf config cells
  let jump := Text.trim (cellAt cells config.columns.jump)
  [⟨config.minColumns ≤ cells.length, .tooFewColumns cells.length config.minColumns⟩,
    ⟨Text.SpellsInt32 address, .invalidAddress address⟩,
    ⟨∃ kind, tag = config.tags.normalTag kind, .unknownTag tag⟩,
    ⟨tag = config.tags.normalTag .terminate ∨ Text.SpellsInt32 jump, .invalidJump jump⟩]

def AllMet (demands : List Demand) : Prop :=
  ∀ demand ∈ demands, demand.met

inductive FirstUnmet : List Demand → RowFault → Prop
  | here {demand : Demand} {rest : List Demand} (unmet : ¬demand.met) :
      FirstUnmet (demand :: rest) demand.fault
  | later {demand : Demand} {rest : List Demand} {fault : RowFault} (met : demand.met)
      (unmet : FirstUnmet rest fault) : FirstUnmet (demand :: rest) fault

theorem allMet_or_firstUnmet (demands : List Demand) :
    AllMet demands ∨ ∃ fault, FirstUnmet demands fault := by
  induction demands with
  | nil => exact Or.inl (by simp [AllMet])
  | cons demand rest ih =>
      by_cases met : demand.met
      · rcases ih with all | ⟨fault, unmet⟩
        · exact Or.inl (List.forall_mem_cons.mpr ⟨met, all⟩)
        · exact Or.inr ⟨fault, .later met unmet⟩
      · exact Or.inr ⟨demand.fault, .here met⟩

theorem readAddress_of_not_spells {cell : String} (other : ¬Text.SpellsInt32 cell) :
    readAddress cell = .error (.invalidAddress cell) := by
  simp [readAddress, (Text.int32?_eq_none_iff cell).mpr other]

theorem readJump_of_not_spells {kind : LineKind} (goesOn : kind ≠ .terminate) {cell : String}
    (other : ¬Text.SpellsInt32 cell) : readJump kind cell = .error (.invalidJump cell) := by
  simp [readJump, goesOn, (Text.int32?_eq_none_iff cell).mpr other]

theorem readKind_of_unknown {names : TagNames} {tag : String}
    (unknown : ¬∃ kind, tag = names.normalTag kind) :
    readKind names tag = .error (.unknownTag tag) := by
  rw [← names.exists_kindOf?_iff, ← Option.isSome_iff_exists,
    Option.not_isSome_iff_eq_none] at unknown
  simp [readKind, unknown]

theorem exists_readAddress {cell : String} (spells : Text.SpellsInt32 cell) :
    ∃ address, readAddress cell = .ok address := by
  simpa only [readAddress_eq_ok_iff, Text.exists_int32?_iff] using spells

theorem exists_readKind {names : TagNames} {tag : String}
    (known : ∃ kind, tag = names.normalTag kind) :
    ∃ kind, readKind names tag = .ok kind ∧
      (kind = .terminate ↔ tag = names.normalTag .terminate) := by
  obtain ⟨kind, found⟩ := (names.exists_kindOf?_iff tag).mpr known
  refine ⟨kind, (readKind_eq_ok_iff names tag kind).mpr found, ?_⟩
  rw [← names.kindOf?_eq_terminate_iff, found, Option.some_inj]

theorem readJump_terminate (cell : String) : readJump .terminate cell = .ok none := by
  simp [readJump]

theorem exists_readJump {kind : LineKind} {cell : String}
    (met : kind = .terminate ∨ Text.SpellsInt32 cell) : ∃ jump, readJump kind cell = .ok jump := by
  by_cases ends : kind = .terminate
  · rw [ends]
    exact ⟨none, readJump_terminate cell⟩
  · obtain ⟨target, found⟩ := (Text.exists_int32?_iff cell).mpr (met.resolve_left ends)
    exact ⟨some target, (readJump_eq_ok_iff _ _ _).mpr (Or.inr ⟨ends, target, found, rfl⟩)⟩

variable {config : Config} {row : String}

theorem readRow_of_narrow (narrow : (rawCells config row).length < config.minColumns) :
    readRow config row =
      .error (.tooFewColumns (rawCells config row).length config.minColumns) := by
  simp only [readRow, cells, List.length_map, narrow, if_true]
  rfl

theorem readRow_of_wide (wide : config.minColumns ≤ (rawCells config row).length) :
    readRow config row = do
      let address ← readAddress (Text.trim (cellAt (rawCells config row) config.columns.address))
      let kind ← readKind config.tags (tagOf config (rawCells config row))
      let jump ← readJump kind (Text.trim (cellAt (rawCells config row) config.columns.jump))
      return recordOf config row address jump := by
  have enough : ¬(rawCells config row).length < config.minColumns := Nat.not_lt.mpr wide
  simp only [readRow, normalizeTag_cells, recordOf]
  simp only [cells, List.length_map, enough, if_false, cellAt_map_trim]

theorem readRow_of_allMet (met : AllMet (demands config (rawCells config row))) :
    ∃ record, readRow config row = .ok record := by
  simp only [AllMet, demands, List.forall_mem_cons] at met
  obtain ⟨wide, address, tag, jump, _⟩ := met
  obtain ⟨address, readsAddress⟩ := exists_readAddress address
  obtain ⟨kind, readsKind, isEnd⟩ := exists_readKind tag
  rw [← isEnd] at jump
  obtain ⟨jump, readsJump⟩ := exists_readJump jump
  rw [readRow_of_wide wide, readsAddress, ok_bind, readsKind, ok_bind, readsJump]
  exact ⟨recordOf config row address jump, rfl⟩

theorem readRow_of_firstUnmet {fault : RowFault}
    (first : FirstUnmet (demands config (rawCells config row)) fault) :
    readRow config row = .error fault := by
  -- Each demand that is met lets the reader take one step more.
  rcases first with unmet | ⟨wide, first⟩
  · exact readRow_of_narrow (Nat.lt_of_not_le unmet)
  rw [readRow_of_wide wide]
  rcases first with unmet | ⟨address, first⟩
  · rw [readAddress_of_not_spells unmet, error_bind]
  obtain ⟨address, readsAddress⟩ := exists_readAddress address
  rw [readsAddress, ok_bind]
  rcases first with unmet | ⟨tag, first⟩
  · rw [readKind_of_unknown unmet, error_bind]
  obtain ⟨kind, readsKind, isEnd⟩ := exists_readKind tag
  rw [readsKind, ok_bind]
  rcases first with unmet | ⟨_, nothing⟩
  · obtain ⟨goesOn, other⟩ := not_or.mp unmet
    rw [readJump_of_not_spells (fun ends => goesOn (isEnd.mp ends)) other, error_bind]
  · cases nothing

theorem readRow_isOk_iff :
    (∃ record, readRow config row = .ok record) ↔
      AllMet (demands config (rawCells config row)) := by
  constructor
  · rintro ⟨record, read⟩
    rcases allMet_or_firstUnmet (demands config (rawCells config row)) with met | ⟨fault, unmet⟩
    · exact met
    · rw [readRow_of_firstUnmet unmet] at read
      contradiction
  · exact readRow_of_allMet

theorem readRow_eq_error_iff (fault : RowFault) :
    readRow config row = .error fault ↔
      FirstUnmet (demands config (rawCells config row)) fault := by
  constructor
  · intro refused
    rcases allMet_or_firstUnmet (demands config (rawCells config row)) with met | ⟨other, unmet⟩
    · obtain ⟨record, read⟩ := readRow_of_allMet met
      rw [read] at refused
      contradiction
    · rw [readRow_of_firstUnmet unmet] at refused
      obtain rfl := Except.error.inj refused
      exact unmet
  · exact readRow_of_firstUnmet

theorem cellAt_set_of_ne {cells : List String} {column other : Nat} (apart : other ≠ column)
    (content : String) : cellAt (cells.set other content) column = cellAt cells column := by
  rw [cellAt, cellAt, List.getElem?_set_ne apart]

theorem readRow_set_jump (apart : config.columns.JumpApart)
    (ends : tagOf config (rawCells config row) = config.tags.normalTag .terminate)
    {content : String} (whole : config.fieldDelimiter ∉ content.toList) :
    readRow config (joinCells config ((rawCells config row).set config.columns.jump content)) =
      readRow config row := by
  obtain ⟨nonempty, apartCells, _⟩ := cut_rawCells config row
  have cut : Cut config
      (joinCells config ((rawCells config row).set config.columns.jump content))
      ((rawCells config row).set config.columns.jump content) := by
    refine ⟨by simpa using nonempty, ?_, rfl⟩
    intro cell listed
    rcases List.mem_or_eq_of_mem_set listed with earlier | rfl
    · exact apartCells cell earlier
    · exact whole
  simp only [Columns.JumpApart, List.mem_cons, List.not_mem_nil, or_false, not_or] at apart
  obtain ⟨address, tag, speaker, body, variant⟩ := apart
  by_cases wide : config.minColumns ≤ (rawCells config row).length
  · have endsToo := ends
    rw [← config.tags.kindOf?_eq_terminate_iff, ← readKind_eq_ok_iff] at endsToo
    have same (address : Address) :
        recordOf config
            (joinCells config ((rawCells config row).set config.columns.jump content))
            address none = recordOf config row address none := by
      simp only [recordOf, readVariant, cells, cut.rawCells_eq, cellAt_map_trim,
        cellAt_set_of_ne tag, cellAt_set_of_ne speaker, cellAt_set_of_ne body,
        cellAt_set_of_ne variant]
    have sameTag : tagOf config ((rawCells config row).set config.columns.jump content) =
        tagOf config (rawCells config row) := by
      rw [tagOf, tagOf, cellAt_set_of_ne tag]
    rw [readRow_of_wide wide, readRow_of_wide (by rwa [cut.rawCells_eq, List.length_set])]
    simp only [cut.rawCells_eq, cellAt_set_of_ne address, sameTag, endsToo, ok_bind,
      readJump_terminate, same]
  · -- A row that is too narrow is refused before any of its cells is looked at.
    have narrow := Nat.lt_of_not_le wide
    rw [readRow_of_narrow narrow,
      readRow_of_narrow (by rwa [cut.rawCells_eq, List.length_set]), cut.rawCells_eq,
      List.length_set]

/-- A row is read just when it meets every demand, and otherwise refused for the first that it does
not meet. -/
theorem readRow_followsGrammar (config : Config) (row : String) :
    ∃ cells, Cut config row cells ∧ (∀ other, Cut config row other → other = cells) ∧
      ((∃ record, readRow config row = .ok record) ↔ AllMet (demands config cells)) ∧
      (∀ record, readRow config row = .ok record → Tells config cells record) ∧
      (∀ fault, readRow config row = .error fault ↔ FirstUnmet (demands config cells) fault) ∧
      (config.columns.JumpApart → tagOf config cells = config.tags.normalTag .terminate →
        ∀ content : String, config.fieldDelimiter ∉ content.toList →
          readRow config (joinCells config (cells.set config.columns.jump content)) =
            readRow config row) ∧
      (∀ other, Cut config (trimRow config row) other →
        other.map Text.trim = cells.map Text.trim) ∧
      readRow config (trimRow config row) = readRow config row := by
  refine ⟨rawCells config row, cut_rawCells config row, fun _ cut => cut.rawCells_eq.symm,
    readRow_isOk_iff, fun _ => tells_of_readRow, readRow_eq_error_iff,
    fun apart ends _ => readRow_set_jump apart ends, ?_, readRow_trimRow config row⟩
  intro other cut
  rw [← cut.rawCells_eq]
  exact cells_trimRow config row

theorem readRow_atLimits :
    let last := ["end", "", "later", " -002147483648 ", "", ""]
    let first := ["w ", "Who?", "nobody", " 2147483648", "", ""]
    (∃ record, readRow ledger (joinCells ledger last) = .ok record) ∧
      readRow ledger (joinCells ledger (last.set 2 " soon? ")) =
        readRow ledger (joinCells ledger last) ∧
      readRow ledger (joinCells ledger first) = .error (.invalidAddress "2147483648") := by
  intro last first
  obtain ⟨cells, _, unique, accepted, _, _, free, _⟩ :=
    readRow_followsGrammar ledger (joinCells ledger last)
  obtain rfl := unique last ⟨by decide, by decide, rfl⟩
  obtain ⟨others, _, uniqueToo, _, _, refused, _⟩ :=
    readRow_followsGrammar ledger (joinCells ledger first)
  obtain rfl := uniqueToo first ⟨by decide, by decide, rfl⟩
  have ends : tagOf ledger last = ledger.tags.normalTag .terminate := by decide +kernel
  have least : Text.SpellsInt32 (Text.trim (cellAt last ledger.columns.address)) :=
    (Text.exists_int32?_iff _).mp ⟨-2147483648, by decide +kernel⟩
  have tooLarge : ¬Text.SpellsInt32 (Text.trim (cellAt first ledger.columns.address)) :=
    (Text.int32?_eq_none_iff _).mp (by decide +kernel)
  refine ⟨accepted.mpr ?_, free (by decide) ends " soon? " (by decide), (refused _).mpr ?_⟩
  · simp only [AllMet, demands, List.forall_mem_cons]
    exact ⟨by decide, least, ⟨.terminate, ends⟩, Or.inl ends, by simp⟩
  · have shown : Text.trim (cellAt first ledger.columns.address) = "2147483648" := by
      decide +kernel
    rw [← shown]
    exact .later (by decide) (.here tooLarge)

end Table
end Playscript
