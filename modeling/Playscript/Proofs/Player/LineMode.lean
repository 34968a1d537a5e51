import Playscript.Player.LineMode
import Playscript.Proofs.Player.Drive
import Playscript.Proofs.Player.Staging
import Playscript.Proofs.Text.Integer
import Playscript.Proofs.Text.Strip
import Playscript.Proofs.Text.Utf8

/-!
The player that reads lines plays the story that a drive by choices plays: fed an empty line for
each line that the drive shows and a number for each choice, it prints what the drive collects and
comes to the same end.
-/

namespace Playscript.LineMode

def lineBytes (line : String) : List UInt8 :=
  Text.encodeUtf8 (line ++ "\n")

theorem dropEnd_lineBreak {line : List Char} (inner : ∀ c ∈ line, isLineEnd c = false) :
    Text.dropEnd isLineEnd (line ++ ['\n']) = line := by
  have kept : line.reverse.dropWhile isLineEnd = line.reverse := by
    apply Text.dropWhile_of_head
    intro c first
    exact inner c (List.mem_reverse.mp (List.mem_of_mem_head? first))
  rw [Text.dropEnd, List.reverse_append, List.reverse_singleton, List.singleton_append,
    List.dropWhile_cons_of_pos (by decide), kept, List.reverse_reverse]

theorem inputLine?_lineBytes {line : String} (inner : ∀ c ∈ line.toList, isLineEnd c = false) :
    inputLine? (lineBytes line) = some line := by
  have lineBreak : ("\n" : String).toList = ['\n'] := by decide
  rw [inputLine?, lineBytes, Text.decodeUtf8?_encodeUtf8, Option.map_some, String.toList_append,
    lineBreak, dropEnd_lineBreak inner, String.ofList_toList]

theorem plain_of_digit {c : Char} (digit : c.isDigit = true) :
    Text.isBlank c = false ∧ isLineEnd c = false ∧ c ≠ ':' := by
  have each : ∀ code < 58, 48 ≤ code → Text.isBlank (Char.ofNat code) = false ∧
      isLineEnd (Char.ofNat code) = false ∧ Char.ofNat code ≠ ':' := by
    decide
  have bounds := Text.code_of_isDigit digit
  rw [← Char.ofNat_toNat c]
  exact each c.toNat (by omega) bounds.1

theorem trim_toString (index : Nat) : Text.trim (toString index) = toString index := by
  apply Text.trim_of_stripped
  constructor
  · intro c first
    exact (plain_of_digit (Text.isDigit_of_mem_toString (List.mem_of_mem_head? first))).1
  · intro c last
    exact (plain_of_digit (Text.isDigit_of_mem_toString (List.mem_of_getLast? last))).1

theorem command_plain {line : String} (plain : ∀ c ∈ (Text.trim line).toList, c ≠ ':')
    (session : Session) : command session line = (.notHandled, [], session) := by
  have other (name : String) (begins : ':' ∈ name.toList) : Text.trim line ≠ name := by
    rintro rfl
    exact plain ':' begins rfl
  unfold command
  split
  · exact absurd ‹_› (other _ (by decide))
  · exact absurd ‹_› (other _ (by decide))
  · exact absurd ‹_› (other _ (by decide))
  · exact absurd ‹_› (other _ (by decide))
  · rfl

def shown (session : Session) : Turn :=
  showOutcome session.advance.2 session.advance.1

theorem showNext_eq (session : Session) : showNext session = (shown session).calling [.advance] :=
  rfl

variable {session : Session}

theorem answerBytes_empty (session : Session) :
    answerBytes session .afterLine (lineBytes "") = showNext session := by
  have read : inputLine? (lineBytes "") = some "" := inputLine?_lineBytes (by simp)
  have plain : command session "" = (.notHandled, [], session) := by
    apply command_plain
    simp [Text.strip, Text.dropEnd]
  simp only [answerBytes, read, answer, plain]

theorem answerBytes_index {index : Nat} {option : BranchOption}
    (awaiting : session.playback.phase = .awaitingChoice)
    (found : session.playback.pending[index]? = some option) (fits : index < UInt64.size) :
    answerBytes session (.atMenu session.playback.pending) (lineBytes (toString index)) =
      (shown (session.pick option)).calling [.choose index] := by
  have read : inputLine? (lineBytes (toString index)) = some (toString index) :=
    inputLine?_lineBytes fun c listed => (plain_of_digit (Text.isDigit_of_mem_toString listed)).2.1
  have plain : command session (toString index) = (.notHandled, [], session) := by
    apply command_plain
    rw [trim_toString]
    exact fun c listed => (plain_of_digit (Text.isDigit_of_mem_toString listed)).2.2
  have within : index < session.playback.pending.length :=
    (List.getElem?_eq_some_iff.mp found).1
  have picked : picked? session.playback.pending (toString index) = some index := by
    rw [picked?, trim_toString, Text.count?_toString fits]
    simp [within]
  simp only [answerBytes, read, answer, plain, answerMenu, picked,
    Session.choose_eq_advance awaiting found, shown]

theorem shown_menu (awaiting : session.playback.phase = .awaitingChoice) :
    shown session = Turn.ask (menuText session.playback.pending) session
      (.atMenu session.playback.pending) := by
  have again : session.advance = (.ok (.choices session.playback.pending), session) := by
    simp only [Session.advance, Playback.advance, awaiting]
    rfl
  rw [shown, again]
  rfl

theorem shown_end (terminated : session.playback.phase = .terminated) :
    shown session = Turn.close endText session (.ok ()) := by
  have again : session.advance = (.ok .ended, session) := by
    simp only [Session.advance, Playback.advance, terminated]
    rfl
  rw [shown, again]
  rfl

theorem Finished.after_after (finished : Finished) (first second : String) :
    (finished.after second).after first = finished.after (first ++ second) := by
  simp [Finished.after, String.append_assoc]

@[simp] theorem Finished.after_empty (finished : Finished) : finished.after "" = finished := by
  simp [Finished.after]

theorem Finished.calling_calling (finished : Finished) (first second : List Operation) :
    (finished.calling second).calling first = finished.calling (first ++ second) := by
  simp [Finished.calling]

@[simp] theorem Finished.calling_nil (finished : Finished) : finished.calling [] = finished :=
  rfl

theorem Finished.after_calling (finished : Finished) (text : String) (calls : List Operation) :
    (finished.calling calls).after text = (finished.after text).calling calls :=
  rfl

theorem goOn_ask (printed : String) (session : Session) (prompt : Prompt) (line : List UInt8)
    (rest : List (List UInt8)) :
    goOn (Turn.ask printed session prompt) (line :: rest) =
      (goOn (answerBytes session prompt line) rest).after (printed ++ prompt.text) :=
  rfl

theorem goOn_calling (calls : List Operation) (turn : Turn) (lines : List (List UInt8)) :
    goOn (turn.calling calls) lines = (goOn turn lines).calling calls := by
  obtain ⟨printed, _, session, standing⟩ := turn
  cases lines with
  | nil => cases standing <;> rfl
  | cons line rest =>
      cases standing with
      | asking prompt => exact (Finished.calling_calling _ _ _).symm
      | _ => rfl

/-- A line as it is printed: a label that is empty is left out. -/
def linePage (line : ShownLine) : String :=
  unlines ("" :: (if line.label.isEmpty then [] else [line.label]) ++ [line.text])

/-- What is printed at a boundary: a menu with the prompt after it, or that the story is over. -/
def kindPage : BoundaryKind → String
  | .choices options => unlines ("" :: options.map fun (index, label) => s!"  [{index}] {label}") ++
      "> "
  | .ended => unlines ["", "[END]"]

def page (boundary : Boundary) : String :=
  String.join (boundary.lines.map linePage) ++ kindPage boundary.kind

theorem kindPage_menu (options : List BranchOption) :
    kindPage (.choices (options.map fun option => (option.index, option.label))) =
      menuText options ++ "> " := by
  rw [kindPage, menuText, List.map_map]
  rfl

def presses (boundary : Boundary) : List String :=
  boundary.lines.map fun _ => ""

/-- The number of each choice, and what the boundary that it leads to asks for. -/
def choiceLines (legs : List (Nat × Boundary)) : List String :=
  legs.flatMap fun leg => toString leg.1 :: presses leg.2

/-- What is asked for on the way to a boundary: each line is shown in full, and left. -/
def lineCalls (boundary : Boundary) : List Operation :=
  boundary.lines.flatMap fun _ => [.skip, .advance]

def choiceCalls (legs : List (Nat × Boundary)) : List Operation :=
  legs.flatMap fun leg => .choose leg.1 :: lineCalls leg.2

/-- The step lemma: fed an empty line for each line of a boundary, the player comes to where the
search came. -/
theorem goOn_of_plays {final : Session} {boundary : Boundary}
    (plays : session.Plays boundary final) (mode : RevealMode) (reveal : Option Reveal)
    (rest : List (List UInt8)) :
    ∃ later, goOn (shown (session.staged mode reveal))
        ((presses boundary).map lineBytes ++ rest) =
      ((goOn (shown (final.staged mode later)) rest).after
        (String.join (boundary.lines.map linePage))).calling (lineCalls boundary) := by
  -- Each turn leaves a reveal of its own, so the induction is general in it.
  induction plays generalizing reveal with
  | @line session next final address kind boundary advanced _ ih =>
      obtain ⟨revealed, staged⟩ := Session.advance_staged advanced mode reveal
      obtain ⟨skipped, finished⟩ := next.skip_staged mode revealed
      obtain ⟨later, goesOn⟩ := ih skipped
      have turn : shown (session.staged mode reveal) =
          (Turn.ask (linePage (next.skip.2.shownLine address)) (next.skip.2.staged mode skipped)
            .afterLine).calling [.skip] := by
        rw [shown, staged]
        simp only [showOutcome, finished]
        rfl
      have noPrompt : linePage (next.skip.2.shownLine address) ++ Prompt.afterLine.text =
          linePage (next.skip.2.shownLine address) := String.append_empty
      have calls : lineCalls (boundary.addLine (next.skip.2.shownLine address)) =
          [.skip] ++ ([.advance] ++ lineCalls boundary) := rfl
      refine ⟨later, ?_⟩
      rw [calls, turn, presses, Boundary.addLine, List.map_cons, List.map_cons, List.cons_append,
        goOn_calling, goOn_ask, answerBytes_empty, noPrompt, List.map_cons, String.join_cons,
        showNext_eq, goOn_calling, ← Finished.after_after, ← Finished.calling_calling,
        ← Finished.calling_calling]
      exact congrArg (fun finished : Finished =>
        ((finished.calling [.advance]).after _).calling [.skip]) goesOn
  | @menu session next options advanced =>
      obtain ⟨later, staged⟩ := Session.advance_staged advanced mode reveal
      obtain ⟨awaiting, rfl⟩ := Session.advance_menu advanced
      have again : shown (next.staged mode later) = _ := shown_menu awaiting
      have same : shown (session.staged mode reveal) = shown (next.staged mode later) := by
        rw [again, shown, staged]
        rfl
      exact ⟨later, by simp [same, presses, lineCalls]⟩
  | @ended session next advanced =>
      obtain ⟨later, staged⟩ := Session.advance_staged advanced mode reveal
      have terminated := Session.advance_end advanced
      have again : shown (next.staged mode later) = _ := shown_end terminated
      have same : shown (session.staged mode reveal) = shown (next.staged mode later) := by
        rw [again, shown, staged]
        rfl
      exact ⟨later, by simp [same, presses, lineCalls]⟩

theorem goOn_of_settled {kind : BoundaryKind} (settled : session.Settled kind) :
    goOn (shown session) [] = ⟨kindPage kind, [], .ok (), session, []⟩ := by
  cases settled with
  | menu awaiting =>
      rw [shown_menu awaiting, kindPage_menu]
      rfl
  | ended terminated =>
      rw [shown_end terminated]
      rfl

/-- The run lemma: each number picks its option, and the lines that follow are played as in the step
lemma. -/
theorem goOn_of_picks {reached final : Session} {legs : List (Nat × Boundary)}
    (picks : reached.Picks legs final) {kind : BoundaryKind} (settled : reached.Settled kind)
    (sound : reached.Sound) (mode : RevealMode) (reveal : Option Reveal) :
    ∃ later, goOn (shown (reached.staged mode reveal)) ((choiceLines legs).map lineBytes) =
      ⟨kindPage kind ++ String.join (legs.map fun leg => page leg.2), choiceCalls legs, .ok (),
        final.staged mode later, []⟩ := by
  induction picks generalizing kind reveal with
  | stay reached =>
      have staged : (reached.staged mode reveal).Settled kind := by
        cases settled with
        | menu awaiting => exact .menu awaiting
        | ended terminated => exact .ended terminated
      refine ⟨reveal, ?_⟩
      simpa [choiceLines, choiceCalls] using goOn_of_settled staged
  | @pick reached next final index boundary rest chosen _ ih =>
      obtain ⟨option, awaiting, found, plays⟩ := Session.chooseToBoundary_plays chosen
      have fits := sound.index_lt awaiting found
      obtain ⟨played, shows⟩ := goOn_of_plays plays mode reveal ((choiceLines rest).map lineBytes)
      obtain ⟨later, goesOn⟩ := ih plays.settled (plays.sound (.pick reached option)) played
      have menu : shown (reached.staged mode reveal) =
          Turn.ask (menuText reached.playback.pending) (reached.staged mode reveal)
            (.atMenu reached.playback.pending) := shown_menu awaiting
      have answered : answerBytes (reached.staged mode reveal) (.atMenu reached.playback.pending)
          (lineBytes (toString index)) =
            (shown ((reached.pick option).staged mode reveal)).calling [.choose index] :=
        answerBytes_index awaiting found fits
      have lines : choiceLines ((index, boundary) :: rest) =
          toString index :: (presses boundary ++ choiceLines rest) := rfl
      refine ⟨later, ?_⟩
      -- The menu asks, the number picks, and the lines up to the next boundary follow.
      rw [lines, List.map_cons, List.map_append, menu, goOn_ask, answered, goOn_calling, shows,
        goesOn]
      cases settled with
      | ended terminated => simp [awaiting] at terminated
      | menu _ =>
          simp only [kindPage_menu, List.map_cons, String.join_cons, page, Finished.after,
            Finished.calling, choiceCalls, List.flatMap_cons, List.cons_append, List.nil_append,
            Prompt.text, String.append_assoc]

theorem byteLines_unlines {lines : List String} (single : ∀ line ∈ lines, '\n' ∉ line.toList) :
    Text.byteLines (Text.encodeUtf8 (unlines lines)) = lines.map lineBytes :=
  Text.byteLines_encodeUtf8 single

theorem single_of_mem_presses {boundary : Boundary} {line : String}
    (listed : line ∈ presses boundary) : '\n' ∉ line.toList := by
  obtain ⟨_, _, rfl⟩ := List.mem_map.mp listed
  simp

theorem single_of_mem_choiceLines {legs : List (Nat × Boundary)} {line : String}
    (listed : line ∈ choiceLines legs) : '\n' ∉ line.toList := by
  obtain ⟨leg, _, inLeg⟩ := List.mem_flatMap.mp listed
  rcases List.mem_cons.mp inLeg with rfl | pressed
  · intro lineBreak
    exact absurd (Text.isDigit_of_mem_toString lineBreak) (by decide)
  · exact single_of_mem_presses pressed

theorem play_of_picks {session reached final : Session} {boundary : Boundary}
    {legs : List (Nat × Boundary)} (ran : session.runToBoundary = (.ok boundary, reached))
    (picks : reached.Picks legs final) (sound : session.Sound) (title : String)
    (mode : RevealMode) (reveal : Option Reveal) :
    ∃ later, play title (session.staged mode reveal)
        (Text.encodeUtf8 (unlines (presses boundary ++ choiceLines legs))) =
      ⟨banner title ++ page boundary ++ String.join (legs.map fun leg => page leg.2),
        .advance :: (lineCalls boundary ++ choiceCalls legs), .ok (), final.staged mode later,
        []⟩ := by
  have plays := Session.runToBoundary_plays ran
  obtain ⟨played, shows⟩ := goOn_of_plays plays mode reveal ((choiceLines legs).map lineBytes)
  obtain ⟨later, goesOn⟩ :=
    goOn_of_picks picks plays.settled (plays.sound sound) mode played
  have single : ∀ line ∈ presses boundary ++ choiceLines legs, '\n' ∉ line.toList := by
    intro line listed
    rcases List.mem_append.mp listed with pressed | chosen
    · exact single_of_mem_presses pressed
    · exact single_of_mem_choiceLines chosen
  refine ⟨later, ?_⟩
  rw [play, byteLines_unlines single, List.map_append, showNext_eq, goOn_calling, shows, goesOn]
  simp only [Finished.after, Finished.calling, page, String.append_assoc, List.cons_append,
    List.nil_append]

end Playscript.LineMode

namespace Playscript

theorem Session.openSource_sound {mode : RevealMode} {source : Source} {session : Session}
    (opened : Session.openSource mode source = .ok session) : session.Sound := by
  obtain ⟨production, _, rfl⟩ := (Session.openSource_eq_ok_iff mode source session).mp opened
  exact (MenuInvariant.kept production).opening

/-- Fed an empty line for each line of a drive and the number of each choice, the player plays what
the drive plays. -/
theorem lineMode_followsDrive {mode playMode : RevealMode} {source : Source}
    {session player reached final : Session} {boundary : Boundary} {legs : List (Nat × Boundary)}
    (opened : Session.openSource mode source = .ok session)
    (fresh : Session.openSource playMode source = .ok player)
    (ran : session.runToBoundary = (.ok boundary, reached)) (picks : reached.Picks legs final)
    (title : String) :
    let input := LineMode.presses boundary ++ LineMode.choiceLines legs
    let finished := LineMode.play title player (Text.encodeUtf8 (LineMode.unlines input))
    let boundaries := boundary :: legs.map Prod.snd
    session.transcript (legs.map Prod.fst) = .ok (Transcript.ofLegs boundary legs) ∧
    (∀ before ∈ boundaries.dropLast, before.kind ≠ .ended) ∧
    finished.result = .ok () ∧ finished.unread = [] ∧
    finished.printed = LineMode.banner title ++ String.join (boundaries.map LineMode.page) ∧
    finished.calls = .advance :: (LineMode.lineCalls boundary ++ LineMode.choiceCalls legs) ∧
    finished.session.history = final.history ∧
    finished.session.playback.phase = final.playback.phase ∧
    finished.session.playback.view = final.playback.view := by
  intro input finished boundaries
  have same : player = session.staged playMode none := by
    rw [Session.openSource_staged opened playMode] at fresh
    exact (Except.ok.inj fresh).symm
  have sound : session.Sound := Session.openSource_sound opened
  have settled := (Session.runToBoundary_plays ran).settled
  obtain ⟨later, played⟩ := LineMode.play_of_picks ran picks sound title playMode none
  rw [← same] at played
  have ends : finished = ⟨LineMode.banner title ++ LineMode.page boundary ++
      String.join (legs.map fun leg => LineMode.page leg.2),
      .advance :: (LineMode.lineCalls boundary ++ LineMode.choiceCalls legs), .ok (),
      final.staged playMode later, []⟩ := played
  refine ⟨picks.transcript ran, picks.menus settled, ?_⟩
  rw [ends]
  refine ⟨rfl, rfl, ?_, rfl, rfl, rfl, rfl⟩
  simp only [boundaries, List.map_cons, List.map_map, String.join_cons, String.append_assoc]
  rfl

/-- A script whose first option leads to a menu that leads back. -/
def detour : Source where
  title := "detour"
  text := "at,tag,who,what,next\n1,W,Aoi,Hello,2\n2,T,,It rains,3\n3,O,,Wait,10\n4,O,,Go,20\n" ++
    "10,O,,Go back,3\n20,END,,,"

def detourSession : Session :=
  let production := { crossroads with
    graph := ⟨[
      ⟨1, "W", "Aoi", "Hello", some 2, "default"⟩, ⟨2, "T", "", "It rains", some 3, "default"⟩,
      ⟨3, "O", "", "Wait", some 10, "default"⟩, ⟨4, "O", "", "Go", some 20, "default"⟩,
      ⟨10, "O", "", "Go back", some 3, "default"⟩,
      ⟨20, "END", "", "", none, "default"⟩], by unfold Ascending; decide⟩
    cast := .nobody }
  ⟨production, production.opening, .empty⟩

theorem lineMode_atDetour :
    let player := detourSession.staged .threaded none
    let finished := LineMode.play "detour" player (Text.encodeUtf8 "\n\n0\n0\n1\n")
    Session.openSource .manual detour = .ok detourSession ∧
    Session.openSource .threaded detour = .ok player ∧
    (∃ transcript, detourSession.transcript [0, 0, 1] = .ok transcript) ∧
    finished.result = .ok () ∧ finished.session.playback.phase = .terminated ∧
    finished.printed = LineMode.banner "detour" ++ "\n【Aoi】\n  Hello\n\n  It rains\n" ++
      "\n  [0] Wait\n  [1] Go\n> \n  [0] Go back\n> \n  [0] Wait\n  [1] Go\n> \n[END]\n" := by
  intro player finished
  have opened : Session.openSource .manual detour = .ok detourSession := rfl
  have fresh : Session.openSource .threaded detour = .ok player :=
    Session.openSource_staged opened .threaded
  let fork : BoundaryKind := .choices [(0, "Wait"), (1, "Go")]
  let first : Boundary := ⟨[⟨1, "【Aoi】", "  Hello"⟩, ⟨2, "", "  It rains"⟩], fork⟩
  let legs : List (Nat × Boundary) :=
    [(0, ⟨[], .choices [(0, "Go back")]⟩), (0, ⟨[], fork⟩), (1, ⟨[], .ended⟩)]
  let atFork := detourSession.runToBoundary.2
  let aside := (atFork.chooseToBoundary 0).2
  let returned := (aside.chooseToBoundary 0).2
  let theEnd := (returned.chooseToBoundary 1).2
  have reaches {run : Except Fault Boundary × Session} {boundary : Boundary}
      (found : run.1 = .ok boundary) : run = (.ok boundary, run.2) := Prod.ext found rfl
  have ran : detourSession.runToBoundary = (.ok first, atFork) := reaches (by decide +kernel)
  have left : atFork.chooseToBoundary 0 = (.ok ⟨[], .choices [(0, "Go back")]⟩, aside) :=
    reaches (by decide +kernel)
  have back : aside.chooseToBoundary 0 = (.ok ⟨[], fork⟩, returned) :=
    reaches (by decide +kernel)
  have right : returned.chooseToBoundary 1 = (.ok ⟨[], .ended⟩, theEnd) :=
    reaches (by decide +kernel)
  have picks : atFork.Picks legs theEnd := .pick left (.pick back (.pick right (.stay theEnd)))
  have input : LineMode.unlines (LineMode.presses first ++ LineMode.choiceLines legs) =
      "\n\n0\n0\n1\n" := by
    decide +kernel
  have followed := lineMode_followsDrive opened fresh ran picks "detour"
  simp only [input] at followed
  obtain ⟨told, _, result, _, printed, _, _, phase, _⟩ := followed
  refine ⟨opened, fresh, ⟨_, told⟩, result, phase.trans (by decide +kernel), printed.trans ?_⟩
  decide +kernel

end Playscript
