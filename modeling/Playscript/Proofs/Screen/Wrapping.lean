import Playscript.Screen.Picture

/-!
Texts on the screen: cut into rows, or cut off. The rows of a text are the text, and the picture
shows the last of them; a text that is cut off keeps its beginning and stays within its width.
-/

namespace Playscript.Screen

/-- The cut of a text into rows: all are full but the last, which is empty only for no text. -/
structure IsCut (width : Nat) (text : List Char) (rows : List (List Char)) : Prop where
  flatten : rows.flatten = text
  full : ∀ row ∈ rows.dropLast, row.length = width
  last : ∃ row, rows.getLast? = some row ∧ row.length ≤ width ∧ (text ≠ [] → row ≠ [])

namespace IsCut

variable {width : Nat} {text row later : List Char} {rows : List (List Char)}

theorem short (fits : text.length ≤ width) : IsCut width text [text] where
  flatten := by simp
  full := by simp
  last := ⟨text, rfl, fits, id⟩

theorem cons (full : row.length = width) (more : later ≠ []) (cut : IsCut width later rows) :
    IsCut width (row ++ later) (row :: rows) := by
  obtain ⟨final, ending, fits, some⟩ := cut.last
  have nonempty : rows ≠ [] := by
    rintro rfl
    simp at ending
  refine ⟨by rw [List.flatten_cons, cut.flatten], ?_, final, ?_, fits, fun _ => some more⟩
  · rw [List.dropLast_cons_of_ne_nil nonempty]
    exact List.forall_mem_cons.mpr ⟨full, cut.full⟩
  · rw [List.getLast?_cons, ending, Option.getD_some]

end IsCut

theorem chunks_append (width room : Nat) (row later : List Char) :
    chunks width (row.length + room) (row ++ later) =
      (chunks width room later).modifyHead (row ++ ·) := by
  induction row with
  | nil =>
      rw [List.length_nil, Nat.zero_add, List.nil_append]
      exact (List.modifyHead_id ▸ rfl)
  | cons c rest ih =>
      have more : (c :: rest).length + room = rest.length + room + 1 := by
        rw [List.length_cons]
        omega
      rw [more, List.cons_append, chunks, ih, List.modifyHead_modifyHead]
      rfl

theorem chunks_zero {width : Nat} (positive : 1 ≤ width) {text : List Char} (more : text ≠ []) :
    chunks width 0 text = [] :: chunks width width text := by
  obtain ⟨c, rest, rfl⟩ := List.exists_cons_of_ne_nil more
  obtain ⟨less, rfl⟩ : ∃ less, width = less + 1 := ⟨width - 1, by omega⟩
  rfl

theorem wrapped_short {width : Nat} (positive : 1 ≤ width) {text : List Char}
    (fits : text.length ≤ width) : wrapped width text = [text] := by
  have room : text.length + (width - text.length) = width := by omega
  have cut := chunks_append width (width - text.length) text []
  rw [room, List.append_nil] at cut
  rw [wrapped, if_neg (by omega), cut]
  simp [chunks]

theorem wrapped_append {width : Nat} (positive : 1 ≤ width) {row later : List Char}
    (full : row.length = width) (more : later ≠ []) :
    wrapped width (row ++ later) = row :: wrapped width later := by
  have cut := chunks_append width 0 row later
  rw [Nat.add_zero, full, chunks_zero positive more] at cut
  rw [wrapped, wrapped, if_neg (by omega), if_neg (by omega), cut]
  simp

theorem wrapped_isCut {width : Nat} (positive : 1 ≤ width) (text : List Char) :
    IsCut width text (wrapped width text) := by
  -- The induction is on the length of what is left of the text after its first row.
  induction size : text.length using Nat.strongRecOn generalizing text with
  | ind length ih =>
      by_cases fits : text.length ≤ width
      · rw [wrapped_short positive fits]
        exact .short fits
      · have full : (text.take width).length = width := by
          rw [List.length_take]
          omega
        have more : text.drop width ≠ [] := by
          rw [Ne, List.drop_eq_nil_iff]
          exact fits
        have less : (text.drop width).length < length := by
          rw [List.length_drop]
          omega
        rw [← List.take_append_drop width text, wrapped_append positive full more]
        exact .cons full more (ih _ less _ rfl)

theorem wrap_empty {width : Nat} (positive : 1 ≤ width) : wrap width "" = [""] := by
  rw [wrap, String.toList_empty, wrapped_short positive (Nat.zero_le _)]
  rfl

theorem join_wrap {width : Nat} (positive : 1 ≤ width) (text : String) :
    String.join (wrap width text) = text := by
  rw [← String.toList_inj, String.toList_join, wrap, List.flatMap_map]
  simpa [List.flatMap_def] using (wrapped_isCut positive text.toList).flatten

theorem length_of_mem_dropLast_wrap {width : Nat} (positive : 1 ≤ width) {text row : String}
    (member : row ∈ (wrap width text).dropLast) : row.length = width := by
  rw [wrap, ← List.map_dropLast] at member
  obtain ⟨row, inside, rfl⟩ := List.mem_map.mp member
  rw [String.length_ofList]
  exact (wrapped_isCut positive text.toList).full row inside

theorem getLast?_wrap {width : Nat} (positive : 1 ≤ width) {text : String} (nonempty : text ≠ "") :
    ∃ last, (wrap width text).getLast? = some last ∧ 1 ≤ last.length ∧ last.length ≤ width := by
  obtain ⟨last, ending, fits, some⟩ := (wrapped_isCut positive text.toList).last
  refine ⟨String.ofList last, ?_, ?_, ?_⟩
  · rw [wrap, List.getLast?_map, ending, Option.map_some]
  · rw [String.length_ofList, Nat.one_le_iff_ne_zero, Ne, List.length_eq_zero_iff]
    exact some (by simpa using nonempty)
  · rw [String.length_ofList]
    exact fits

theorem truncated_of_le {width : Nat} {text : List Char} (fits : text.length ≤ width) :
    truncated width text = text :=
  if_pos fits

theorem truncated_of_lt {width : Nat} {text : List Char} (exceeds : width < text.length) :
    truncated width text = if width = 0 then [] else text.take (width - 1) ++ [ellipsis] := by
  rw [truncated, if_neg (by omega)]
  rcases width with _ | _ | width
  · rfl
  · rfl
  · simp

theorem length_truncated (width : Nat) (text : List Char) :
    (truncated width text).length = min text.length width := by
  by_cases fits : text.length ≤ width
  · rw [truncated_of_le fits]
    omega
  · rw [truncated_of_lt (by omega)]
    by_cases none : width = 0
    · simp [none]
    · simp only [none, if_false, List.length_append, List.length_take, List.length_singleton]
      omega

theorem truncated_eq_self_iff (width : Nat) (text : List Char) :
    truncated width text = text ↔ text.length ≤ width := by
  constructor
  · intro same
    have length := length_truncated width text
    rw [same] at length
    omega
  · exact truncated_of_le

theorem length_truncate (width : Nat) (text : String) :
    (truncate width text).length = min text.length width := by
  rw [truncate, String.length_ofList, length_truncated, String.length_toList]

theorem truncate_eq_self_iff (width : Nat) (text : String) :
    truncate width text = text ↔ text.length ≤ width := by
  rw [← String.toList_inj, truncate, String.toList_ofList, truncated_eq_self_iff,
    String.length_toList]

theorem truncate_of_lt {width : Nat} {text : String} (exceeds : width < text.length) :
    truncate width text =
      if width = 0 then "" else String.ofList (text.toList.take (width - 1)) ++ "…" := by
  rw [← String.length_toList] at exceeds
  rw [← String.toList_inj, truncate, String.toList_ofList, truncated_of_lt exceeds]
  split
  · rfl
  · rw [String.toList_append, String.toList_ofList]
    rfl

/-- The rows of the panel: of the history when it is open, and else of the line on the screen. -/
def panelRows (screen : Screen) (history : List String) (width : Nat) : List String :=
  let content := contentWidth width
  if screen.historyOpen then history.flatMap (wrap content) else wrap content screen.visibleText

def heading (screen : Screen) (title : String) (width : Nat) : List Line :=
  let content := contentWidth width
  [.plain (truncate content title), .span .gray (truncate content screen.statusLine)] ++
    (if screen.historyOpen then [.span .magenta "history (h to close)"]
      else [.span .gray (truncate content screen.portraitText),
        .span .cyan (truncate content screen.label)])

def footing (screen : Screen) (width : Nat) : List Line :=
  let content := contentWidth width
  .span .gray (String.ofList (List.replicate content '─')) :: screen.menu content ++
    (if screen.ended then [.span .green "[end]"] else []) ++
    .span .yellow (truncate content keyHints) ::
    (if screen.helpOpen then [.span .magenta (truncate content helpLine)] else [])

theorem picture_eq (screen : Screen) (title : String) (history : List String)
    (width height : Nat) : screen.picture title history width height =
      screen.heading title width ++
        (lastRows (bodyRows height) (screen.panelRows history width)).map Line.plain ++
        screen.footing width := by
  simp only [picture, heading, panelRows, footing, historyPanel, linePanel]
  split <;> simp

theorem lastRows_suffix (count : Nat) (rows : List String) : lastRows count rows <:+ rows :=
  List.drop_suffix _ rows

theorem length_lastRows (count : Nat) (rows : List String) :
    (lastRows count rows).length = min count rows.length := by
  rw [lastRows, List.length_drop]
  omega

/-- The rows of a text lose nothing of it, and the picture shows the last of them that its panel
takes. -/
theorem rows_loseNothing :
    (∀ text width, 1 ≤ width →
      String.join (wrap width text) = text ∧
      (∀ row ∈ (wrap width text).dropLast, row.length = width) ∧
      (text = "" → wrap width text = [""]) ∧
      (text ≠ "" → ∃ last, (wrap width text).getLast? = some last ∧
        1 ≤ last.length ∧ last.length ≤ width)) ∧
    (∀ (screen : Screen) title history width height,
      let rows := screen.panelRows history width
      ∃ shown, shown <:+ rows ∧ shown.length = min (bodyRows height) rows.length ∧
        screen.picture title history width height =
          screen.heading title width ++ shown.map Line.plain ++ screen.footing width) ∧
    ∀ text width,
      (truncate width text = text ↔ text.length ≤ width) ∧
      (width < text.length → (truncate width text).length = width ∧
        truncate width text =
          if width = 0 then "" else String.ofList (text.toList.take (width - 1)) ++ "…") ∧
      truncate width (truncate width text) = truncate width text := by
  refine ⟨?_, ?_, ?_⟩
  · intro text width positive
    refine ⟨join_wrap positive text, fun row => length_of_mem_dropLast_wrap positive, ?_,
      getLast?_wrap positive⟩
    rintro rfl
    exact wrap_empty positive
  · intro screen title history width height rows
    exact ⟨lastRows (bodyRows height) rows, lastRows_suffix _ _, length_lastRows _ _,
      screen.picture_eq title history width height⟩
  · intro text width
    have length := length_truncate width text
    refine ⟨truncate_eq_self_iff width text, ?_, ?_⟩
    · intro exceeds
      exact ⟨by omega, truncate_of_lt exceeds⟩
    · rw [truncate_eq_self_iff, length]
      exact Nat.min_le_right _ _

theorem rows_ofCurtain :
    let screen : Screen := { label := "【Aoi】", visibleText := "The curtain falls at last." }
    wrap 3 "curtain" = ["cur", "tai", "n"] ∧ String.join (wrap 3 "curtain") = "curtain" ∧
    (∀ row ∈ (wrap 3 "curtain").dropLast, row.length = 3) ∧
    (∃ last, (wrap 3 "curtain").getLast? = some last ∧ 1 ≤ last.length ∧ last.length ≤ 3) ∧
    wrap 3 "" = [""] ∧
    (∃ shown, shown <:+ ["The curtain fall", "s at last."] ∧ shown.length = 1 ∧
      screen.picture "Night" [] 18 13 =
        screen.heading "Night" 18 ++ shown.map Line.plain ++ screen.footing 18) ∧
    truncate 7 "curtain" = "curtain" ∧ (truncate 3 "curtain").length = 3 ∧
    truncate 3 "curtain" = "cu…" ∧ truncate 1 "curtain" = "…" ∧ truncate 0 "curtain" = "" := by
  intro screen
  obtain ⟨cuts, shows, cutsOff⟩ := rows_loseNothing
  obtain ⟨joined, full, _, last⟩ := cuts "curtain" 3 (by decide)
  obtain ⟨_, _, empty, _⟩ := cuts "" 3 (by decide)
  have wrapped : screen.panelRows [] 18 = ["The curtain fall", "s at last."] := by decide +kernel
  obtain ⟨shown, suffix, length, picture⟩ := shows screen "Night" [] 18 13
  rw [wrapped] at suffix length
  refine ⟨by decide +kernel, joined, full, last (by decide), empty rfl,
    ⟨shown, suffix, length, picture⟩, ?_, ?_, ?_, ?_, ?_⟩
  · exact (cutsOff "curtain" 7).1.mpr (by decide)
  · exact ((cutsOff "curtain" 3).2.1 (by decide)).1
  · exact ((cutsOff "curtain" 3).2.1 (by decide)).2
  · exact ((cutsOff "curtain" 1).2.1 (by decide)).2
  · exact ((cutsOff "curtain" 0).2.1 (by decide)).2

end Playscript.Screen
