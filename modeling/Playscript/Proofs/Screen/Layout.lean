import Playscript.Proofs.Screen.Watch
import Playscript.Proofs.Screen.Wrapping
import Playscript.Screen.Terminal

/-!
How much room the picture takes on a terminal. A line that is narrower than the terminal has one
row, or two when it is blank, so the picture fits as long as what is drawn below and around the
panel finds room in what the panel leaves.
-/

namespace Playscript

namespace Text

theorem flatten_modifyHead_cons (c : Char) {clusters : List (List Char)}
    (nonempty : clusters ≠ []) :
    (clusters.modifyHead (c :: ·)).flatten = c :: clusters.flatten := by
  obtain ⟨first, rest, rfl⟩ := List.exists_cons_of_ne_nil nonempty
  rfl

theorem clustersAfter_ne_nil (state : ClusterState) (text : List Char) :
    clustersAfter state text ≠ [] := by
  induction text generalizing state with
  | nil => simp [clustersAfter]
  | cons c rest ih =>
      simp only [clustersAfter]
      split
      · simpa using ih _
      · simp

theorem flatten_clustersAfter (state : ClusterState) (text : List Char) :
    (clustersAfter state text).flatten = text := by
  induction text generalizing state with
  | nil => rfl
  | cons c rest ih =>
      simp only [clustersAfter]
      split
      · rw [flatten_modifyHead_cons c (clustersAfter_ne_nil _ _), ih]
      · rw [List.flatten_cons, List.nil_append,
          flatten_modifyHead_cons c (clustersAfter_ne_nil _ _), ih]

theorem flatten_clusters (text : List Char) : (clusters text).flatten = text := by
  cases text with
  | nil => rfl
  | cons c rest =>
      rw [clusters, flatten_modifyHead_cons c (clustersAfter_ne_nil _ _), flatten_clustersAfter]

end Text

namespace Screen

namespace Line

def symbols (line : Line) : List Symbol := line.spans.flatMap spanSymbols

def width (line : Line) : Nat := totalWidth line.symbols

def isBlank (line : Line) : Bool := !line.symbols.isEmpty && line.symbols.all Symbol.isBlank

end Line

theorem width_le_totalWidth {symbol : Symbol} {symbols : List Symbol} (member : symbol ∈ symbols) :
    symbol.width ≤ totalWidth symbols := by
  induction symbols with
  | nil => simp at member
  | cons first rest ih =>
      have total : totalWidth (first :: rest) = first.width + totalWidth rest := rfl
      rcases List.mem_cons.mp member with rfl | later
      · omega
      · have := ih later
        omega

theorem length_rowsOf {width : Nat} {line : Line} (narrow : line.width < width) :
    (rowsOf width line).length = 1 + line.isBlank.toNat := by
  have room : ¬width ≤ totalWidth line.symbols := Nat.not_le.mpr narrow
  have whole : line.symbols.filter (fun symbol => symbol.width ≤ width) = line.symbols := by
    rw [List.filter_eq_self]
    intro symbol member
    have := width_le_totalWidth member
    rw [decide_eq_true_eq]
    omega
  have rows : rowsOf width line = (terminalRows width line.symbols).map (drawRow line.colour) := by
    rw [← whole]
    rfl
  rw [rows, List.length_map, terminalRows, if_neg room, ← Line.isBlank]
  cases line.isBlank <;> rfl

theorem length_rows {width : Nat} {lines : List Line}
    (narrow : ∀ line ∈ lines, line.width < width) :
    (lines.flatMap (rowsOf width)).length = lines.length + lines.countP Line.isBlank := by
  induction lines with
  | nil => rfl
  | cons line rest ih =>
      obtain ⟨first, others⟩ := List.forall_mem_cons.mp narrow
      rw [List.flatMap_cons, List.length_append, length_rowsOf first, ih others, List.length_cons,
        List.countP_cons]
      cases line.isBlank
      · simp
        omega
      · simp
        omega

/-- All rows of these lines are on a terminal of this size. -/
def Fits (width height : Nat) (lines : List Line) : Prop :=
  ∃ spare, draw width height lines = lines.flatMap (rowsOf width) ++ List.replicate spare Row.blank

theorem fits_iff {width : Nat} (positive : 0 < width) (height : Nat) (lines : List Line) :
    Fits width height lines ↔ (lines.flatMap (rowsOf width)).length ≤ height := by
  have drawn : draw width height lines = (lines.flatMap (rowsOf width)).take height ++
      List.replicate (height - ((lines.flatMap (rowsOf width)).take height).length) Row.blank := by
    rw [draw, if_neg (by omega)]
  constructor
  · rintro ⟨spare, whole⟩
    have length := congrArg List.length (drawn.symm.trans whole)
    simp only [List.length_append, List.length_take, List.length_replicate] at length
    omega
  · intro room
    rw [Fits, drawn, List.take_of_length_le room]
    exact ⟨_, rfl⟩

theorem isBlank_eq_false_of_mem {line : Line} {span : String} {c : Char}
    (inLine : span ∈ line.spans) (inSpan : c ∈ span.toList) (visible : Text.isBlank c = false)
    (notZero : c ≠ Char.ofNat 0x200B) : line.isBlank = false := by
  rw [← Text.flatten_clusters span.toList, List.mem_flatten] at inSpan
  obtain ⟨cluster, inClusters, inCluster⟩ := inSpan
  have kept : (cluster != ['\n']) = true := by
    rw [bne_iff_ne]
    rintro rfl
    rw [List.mem_singleton.mp inCluster] at visible
    simp [Text.isBlank] at visible
  have symbol : Symbol.ofCluster cluster ∈ line.symbols :=
    List.mem_flatMap.mpr ⟨span, inLine, List.mem_map.mpr
      ⟨cluster, List.mem_filter.mpr ⟨inClusters, kept⟩, rfl⟩⟩
  have seen : (Symbol.ofCluster cluster).isBlank = false := by
    rw [Symbol.isBlank, Symbol.ofCluster, Bool.or_eq_false_iff, Bool.and_eq_false_iff]
    constructor
    · rw [beq_eq_false_iff_ne]
      rintro rfl
      exact notZero (List.mem_singleton.mp inCluster)
    · left
      rw [List.all_eq_false]
      exact ⟨c, inCluster, by simp [visible]⟩
  rw [Line.isBlank, Bool.and_eq_false_iff]
  right
  rw [List.all_eq_false]
  exact ⟨_, symbol, by simp [seen]⟩

def StartsVisibly (text : String) : Prop :=
  ∃ c, text.toList.head? = some c ∧ Text.isBlank c = false ∧ c ≠ Char.ofNat 0x200B

theorem StartsVisibly.isBlank {text : String} (starts : StartsVisibly text) (colour : Colour) :
    (Line.span colour text).isBlank = false := by
  obtain ⟨c, head, visible, notZero⟩ := starts
  exact isBlank_eq_false_of_mem (List.mem_singleton_self text) (List.mem_of_mem_head? head) visible
    notZero

theorem head?_truncate {width : Nat} (two : 2 ≤ width) (text : String) :
    (truncate width text).toList.head? = text.toList.head? := by
  rw [truncate, String.toList_ofList]
  by_cases fits : text.toList.length ≤ width
  · rw [truncated_of_le fits]
  · rw [truncated_of_lt (by omega), if_neg (by omega)]
    obtain ⟨c, rest, same⟩ : ∃ c rest, text.toList = c :: rest := by
      apply List.exists_cons_of_ne_nil
      rintro none
      simp [none] at fits
    obtain ⟨less, rfl⟩ : ∃ less, width = less + 2 := ⟨width - 2, by omega⟩
    rw [same]
    rfl

theorem StartsVisibly.truncate {text : String} (starts : StartsVisibly text) (width : Nat) :
    StartsVisibly (truncate (contentWidth width) text) := by
  have two : 2 ≤ contentWidth width := by
    rw [contentWidth]
    omega
  rw [StartsVisibly, head?_truncate two]
  exact starts

theorem statusLine_startsVisibly (screen : Screen) : StartsVisibly screen.statusLine :=
  ⟨'s', by simp [statusLine, toString], by decide, by decide⟩

def shownOptions (screen : Screen) : Nat :=
  if screen.revealing then 0 else min menuRows (screen.choices.length - screen.scroll)

def optionLines (screen : Screen) (width : Nat) : List Line :=
  (List.range screen.shownOptions).map (screen.menuLine width)

theorem shownOptions_le (screen : Screen) : screen.shownOptions ≤ menuRows := by
  rw [shownOptions]
  split <;> omega

theorem menuLine_of_shown_le {screen : Screen} {place : Nat} (below : screen.shownOptions ≤ place)
    (inMenu : place < menuRows) (width : Nat) : screen.menuLine width place = .plain " " := by
  have none :
      (if screen.revealing then none else screen.choices[screen.scroll + place]?) = none := by
    rw [shownOptions] at below
    split at below
    case isTrue hidden => rw [if_pos hidden]
    case isFalse visible =>
      rw [if_neg visible, List.getElem?_eq_none_iff]
      omega
  simp only [menuLine, none]

theorem menu_eq (screen : Screen) (width : Nat) : screen.menu width =
    screen.optionLines width ++ List.replicate (menuRows - screen.shownOptions) (.plain " ") := by
  obtain ⟨idle, places⟩ := Nat.exists_eq_add_of_le screen.shownOptions_le
  have rest : ((List.range idle).map (screen.shownOptions + ·)).map (screen.menuLine width) =
      List.replicate idle (.plain " ") := by
    rw [List.eq_replicate_iff]
    refine ⟨by simp, ?_⟩
    intro line member
    simp only [List.map_map, List.mem_map, Function.comp_apply, List.mem_range] at member
    obtain ⟨place, within, rfl⟩ := member
    exact menuLine_of_shown_le (by omega) (by omega) width
  rw [menu, places, List.range_add, List.map_append, rest, Nat.add_sub_cancel_left, optionLines]

theorem isBlank_placeholder : (Line.plain " ").isBlank = true := by
  decide +kernel

def headingTexts (screen : Screen) (title : String) (width : Nat) : List Line :=
  let content := contentWidth width
  .plain (truncate content title) ::
    if screen.historyOpen then []
    else [.span .gray (truncate content screen.portraitText),
      .span .cyan (truncate content screen.label)]

/-- The lines that show what comes from the script, its cast or its configuration. -/
def texts (screen : Screen) (title : String) (history : List String) (width height : Nat) :
    List Line :=
  screen.headingTexts title width ++
    (lastRows (bodyRows height) (screen.panelRows history width)).map Line.plain ++
    screen.optionLines (contentWidth width)

theorem countP_isBlank_heading (screen : Screen) (title : String) (width : Nat) :
    (screen.heading title width).countP Line.isBlank =
      (screen.headingTexts title width).countP Line.isBlank := by
  have status := (screen.statusLine_startsVisibly.truncate width).isBlank .gray
  have header : StartsVisibly "history (h to close)" := ⟨'h', rfl, by decide, by decide⟩
  simp only [heading, headingTexts]
  split
  · simp [List.countP_cons, status, header.isBlank]
  · simp [List.countP_cons, status]

theorem separator_startsVisibly (width : Nat) :
    StartsVisibly (String.ofList (List.replicate (contentWidth width) '─')) := by
  obtain ⟨less, more⟩ : ∃ less, contentWidth width = less + 1 :=
    ⟨contentWidth width - 1, by rw [contentWidth]; omega⟩
  exact ⟨'─', by simp [more, List.replicate_succ], by decide, by decide⟩

theorem countP_isBlank_footing (screen : Screen) (width : Nat) :
    (screen.footing width).countP Line.isBlank =
      (screen.optionLines (contentWidth width)).countP Line.isBlank +
        (menuRows - screen.shownOptions) := by
  have separator := (separator_startsVisibly width).isBlank .gray
  have ending : StartsVisibly "[end]" := ⟨'[', rfl, by decide, by decide⟩
  have hints : StartsVisibly keyHints := ⟨'k', rfl, by decide, by decide⟩
  have help : StartsVisibly helpLine := ⟨'e', rfl, by decide, by decide⟩
  have idle : (List.replicate (menuRows - screen.shownOptions) (Line.plain " ")).countP
      Line.isBlank = menuRows - screen.shownOptions := by
    rw [List.countP_replicate, if_pos isBlank_placeholder]
  have whenEnded : (if screen.ended then [Line.span .green "[end]"] else []).countP
      Line.isBlank = 0 := by
    split <;> simp [ending.isBlank]
  have whenOpen : (if screen.helpOpen then
      [Line.span .magenta (truncate (contentWidth width) helpLine)] else []).countP
      Line.isBlank = 0 := by
    split <;> simp [(help.truncate width).isBlank]
  simp only [footing, List.countP_cons, List.countP_append, List.cons_append, separator, menu_eq,
    idle, whenEnded, whenOpen, (hints.truncate width).isBlank, Bool.false_eq_true, if_false,
    Nat.add_zero]

theorem countP_isBlank_picture (screen : Screen) (title : String) (history : List String)
    (width height : Nat) : (screen.picture title history width height).countP Line.isBlank =
      (screen.texts title history width height).countP Line.isBlank +
        (menuRows - screen.shownOptions) := by
  rw [picture_eq, texts, List.countP_append, List.countP_append, List.countP_append,
    List.countP_append, countP_isBlank_heading, countP_isBlank_footing]
  omega

theorem length_heading (screen : Screen) (title : String) (width : Nat) :
    (screen.heading title width).length = if screen.historyOpen then 3 else 4 := by
  simp only [heading]
  split <;> rfl

theorem length_footing (screen : Screen) (width : Nat) :
    (screen.footing width).length = 7 + screen.ended.toNat + screen.helpOpen.toNat := by
  simp only [footing, menu, menuRows]
  cases screen.ended <;> cases screen.helpOpen <;> simp

theorem length_picture (screen : Screen) (title : String) (history : List String)
    (width height : Nat) : (screen.picture title history width height).length =
      (if screen.historyOpen then 10 else 11) +
        min (bodyRows height) (screen.panelRows history width).length +
        screen.ended.toNat + screen.helpOpen.toNat := by
  rw [picture_eq, List.length_append, List.length_append, List.length_map, length_lastRows,
    length_heading, length_footing]
  split <;> omega

theorem bodyRows_of_le {height : Nat} (tall : 13 ≤ height) : bodyRows height = height - 12 := by
  rw [bodyRows, menuRows]
  omega

theorem fits_picture_iff {screen : Screen} {title : String} {history : List String}
    {width height : Nat} (tall : 13 ≤ height)
    (narrow : ∀ line ∈ screen.picture title history width height, line.width < width) :
    Fits width height (screen.picture title history width height) ↔
      screen.ended.toNat + screen.helpOpen.toNat + (menuRows - screen.shownOptions) +
          (screen.texts title history width height).countP Line.isBlank ≤
        (if screen.historyOpen then 2 else 1) +
          (height - 12 - (screen.panelRows history width).length) := by
  have positive : 0 < width := by
    have first := narrow (.plain (truncate (contentWidth width) title)) (by simp [picture])
    omega
  rw [fits_iff positive, length_rows narrow, length_picture, countP_isBlank_picture,
    bodyRows_of_le tall]
  split <;> omega

/-- A picture is on the terminal as a whole exactly when the lines without a row of their own find
one. -/
theorem picture_onScreen_iff (screen : Screen) (title : String) (history : List String)
    {width height : Nat} (tall : 13 ≤ height)
    (narrow : ∀ line ∈ screen.picture title history width height, line.width < width) :
    let lines := screen.picture title history width height
    let rows := screen.panelRows history width
    let blankTexts := (screen.texts title history width height).countP Line.isBlank
    (Fits width height lines ↔
      screen.ended.toNat + screen.helpOpen.toNat + (menuRows - screen.shownOptions) + blankTexts ≤
        (if screen.historyOpen then 2 else 1) + (height - 12 - rows.length)) ∧
    (screen.shownOptions = menuRows → blankTexts = 0 →
      (screen.ended = true → screen.helpOpen = true →
        screen.historyOpen = true ∨ rows.length < height - 12) → Fits width height lines) ∧
    (screen.choices = [] → height - 12 ≤ rows.length → ¬Fits width height lines) ∧
    ∃ shown, shown <:+ rows ∧ shown.length = min (height - 12) rows.length ∧
      lines = screen.heading title width ++ shown.map Line.plain ++ screen.footing width := by
  intro lines rows blankTexts
  have law : Fits width height lines ↔
      screen.ended.toNat + screen.helpOpen.toNat + (menuRows - screen.shownOptions) + blankTexts ≤
        (if screen.historyOpen then 2 else 1) + (height - 12 - rows.length) :=
    fits_picture_iff tall narrow
  refine ⟨law, ?_, ?_, lastRows (bodyRows height) rows, lastRows_suffix _ _, ?_, ?_⟩
  · intro full visible spared
    rw [law, full, visible]
    have endMark := screen.ended.toNat_le
    have helpRow := screen.helpOpen.toNat_le
    by_cases both : screen.ended = true ∧ screen.helpOpen = true
    · rcases spared both.1 both.2 with inHistory | spare
      · rw [if_pos inHistory]
        omega
      · split <;> omega
    · have one : screen.ended.toNat + screen.helpOpen.toNat ≤ 1 := by
        cases ended : screen.ended <;> cases help : screen.helpOpen <;> simp_all
      split <;> omega
  · intro bare full
    have none : screen.shownOptions = 0 := by simp [shownOptions, bare]
    have places : menuRows = 5 := rfl
    rw [law, none, places]
    split <;> omega
  · rw [length_lastRows, bodyRows_of_le tall]
  · exact screen.picture_eq title history width height

theorem picture_atCrossing :
    let screen : Screen := {
      label := "Aoi", visibleText := "Which way shall we go?", portrait := some "aoi/calm.png"
      choices := [(0, "North"), (1, "East"), (2, "South"), (3, "West"), (4, "Back"), (5, "Stay")]
      helpOpen := true }
    let empty := { screen with choices := [] }
    (∀ line ∈ screen.picture "script" [] 18 13, line.width < 18) ∧ screen.shownOptions = menuRows ∧
    (screen.panelRows [] 18).length = 2 ∧ Fits 18 13 (screen.picture "script" [] 18 13) ∧
    (∀ line ∈ empty.picture "script" [] 18 13, line.width < 18) ∧
    ¬Fits 18 13 (empty.picture "script" [] 18 13) := by
  intro screen empty
  -- one evaluation of both pictures, which have most of their lines in common
  have ⟨narrow, narrowEmpty, rows, visible⟩ :
      (∀ line ∈ screen.picture "script" [] 18 13, line.width < 18) ∧
      (∀ line ∈ empty.picture "script" [] 18 13, line.width < 18) ∧
      (screen.panelRows [] 18).length = 2 ∧
      (screen.texts "script" [] 18 13).countP Line.isBlank = 0 := by decide +kernel
  have full : screen.shownOptions = menuRows := by decide
  have rowsEmpty : (empty.panelRows [] 18).length = 2 := rows
  obtain ⟨_, whole, _⟩ := picture_onScreen_iff screen "script" [] (Nat.le_refl 13) narrow
  obtain ⟨_, _, lost, _⟩ := picture_onScreen_iff empty "script" [] (Nat.le_refl 13) narrowEmpty
  refine ⟨narrow, full, rows, whole full visible ?_, narrowEmpty, lost rfl ?_⟩
  · exact fun ended => absurd ended Bool.false_ne_true
  · omega

def soliloquyText : String :=
  "at,tag,who,what,next\n1,T,,Hello,2\n2,END,,,"

def soliloquy : Production where
  graph := ⟨[
    ⟨1, "T", "", "Hello", some 2, "default"⟩,
    ⟨2, "END", "", "", none, "default"⟩], by unfold Ascending; decide⟩
  config := {}
  cast := .nobody
  entry := 1
  mode := .manual
  interval := Config.revealStep {}
  units := Units.chars
  observers := []

theorem picture_losesHints :
    let screen := (soliloquy.watched false [.press ⟨.enter, false⟩]).ready.screen
    let lines := screen.picture "script" [] 18 13
    Production.ofText soliloquyText {} = .ok soliloquy ∧
    screen.visibleText = "  Hello" ∧ screen.choices = [] ∧
    (∀ line ∈ lines, line.width < 18) ∧ ¬Fits 18 13 lines ∧
    ∀ row ∈ draw 18 13 lines, row.colour ≠ .yellow := by
  intro screen lines
  refine ⟨rfl, ?_⟩
  rw [fits_iff (by decide)]
  decide +kernel

end Screen
end Playscript
