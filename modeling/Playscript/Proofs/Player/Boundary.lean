import Playscript.Player.Boundary
import Playscript.Proofs.Playback.View
import Playscript.Proofs.Playback.Walk

/-!
What a search for a boundary gives. It shows the lines of the walk from the cursor one by one and
ends where the walk ends; the limit on its steps is met by the walks that do not end and, in a
script with few enough lines, by no others.
-/

namespace Playscript

namespace Boundary

def addLines (lines : List ShownLine) (boundary : Boundary) : Boundary :=
  { boundary with lines := lines ++ boundary.lines }

@[simp] theorem addLines_nil : addLines [] = id := rfl

theorem addLine_comp_addLines (line : ShownLine) (lines : List ShownLine) :
    addLine line ∘ addLines lines = addLines (line :: lines) := rfl

end Boundary

theorem map_map_except {ε α β γ : Type} (step : Except ε α) (first : α → β) (second : β → γ) :
    (step.map first).map second = step.map (second ∘ first) := by
  cases step <;> rfl

/-- How a record is shown: told lines bear the label for nobody, spoken lines their speaker's. -/
def Production.shownAs (production : Production) (record : Record) : ShownLine where
  address := record.address
  label := if production.kindOf? record = some .narration then production.config.emptyField
    else production.config.labelOpen ++ production.creditOf record.speaker ++
      production.config.labelClose
  text := production.config.bodyIndent ++ record.body

theorem Production.Shows.shownAs {production : Production} {record : Record} {target : Address}
    {kind : LineKind} {view : View} (shows : production.Shows record target kind view)
    (known : production.kindOf? record = some kind) :
    production.shownAs record = ⟨record.address, view.label, view.body⟩ := by
  cases shows with
  | spoken =>
      have shows : production.Shows record target .speech (production.showSpeech record target) :=
        .spoken
      simp [Production.shownAs, known, showSpeech_label, shows.body, Config.indentedBody]
  | told =>
      simp [Production.shownAs, known, showNarration, showLine, Config.indentedBody]

namespace Session

structure StandsAt (session : Session) (production : Production) (address : Address) : Prop where
  production : session.production = production
  playing : session.playback.IsPlaying
  cursor : session.playback.view.cursor = address

variable {session : Session} {production : Production} {start last : Address}

theorem runFor_of_advance {outcome : Except Fault Outcome}
    (advanced : session.advance.1 = outcome) (steps : Nat) :
    session.runFor (steps + 1) = settleResult (runFor steps) (outcome, session.advance.2) := by
  rw [← advanced]
  rfl

theorem runFor_line {record : Record} {target : Address}
    (stands : session.StandsAt production start)
    (found : production.graph.get? start = some record) (line : production.IsLine record)
    (jump : record.jump = some target) :
    ∃ next : Session, next.StandsAt production target ∧ ∀ steps, session.runFor (steps + 1) =
      ((next.runFor steps).1.map (Boundary.addLine (production.shownAs record)),
        (next.runFor steps).2) := by
  obtain ⟨rfl, playing, rfl⟩ := stands
  obtain ⟨kind, known, isLine⟩ : ∃ kind, session.production.kindOf? record = some kind ∧
      (kind = .speech ∨ kind = .narration) := by
    rcases line with speech | narration
    · exact ⟨.speech, speech, Or.inl rfl⟩
    · exact ⟨.narration, narration, Or.inr rfl⟩
  obtain ⟨view, shows, advanced⟩ := Playback.advance_of_line playing found known isLine jump
  have outcome : session.advance.1 = .ok (.line session.playback.view.cursor kind) := by
    simp [advance, advanced]
  have seen : session.advance.2.skip.2.playback.view = view := by
    simp [skip, advance, after, advanced, (Playback.skip_turned _).view, Playback.present]
  refine ⟨session.advance.2.skip.2, ⟨rfl, ?_, ?_⟩, ?_⟩
  · right
    simp [skip, advance, after, advanced, (Playback.skip_turned _).phase, Playback.present]
  · rw [seen, shows.cursor]
  · intro steps
    rw [runFor_of_advance outcome, shows.shownAs known, Graph.address_of_get? found, ← seen]
    rfl

theorem runFor_walk {records : List Record} (walk : production.Walk start records last)
    (stands : session.StandsAt production start) :
    ∃ arrived : Session, arrived.StandsAt production last ∧
      ∀ steps, (session.runFor (records.length + steps)).1 =
        (arrived.runFor steps).1.map (Boundary.addLines (records.map production.shownAs)) := by
  induction walk generalizing session with
  | stay =>
      refine ⟨session, stands, ?_⟩
      intro steps
      simp [Except.map_id]
  | @step start target last record rest found line jump _ ih =>
      obtain ⟨next, nextStands, shows⟩ := runFor_line stands found line jump
      obtain ⟨arrived, arrivedStands, continues⟩ := ih nextStands
      refine ⟨arrived, arrivedStands, ?_⟩
      intro steps
      have count : (record :: rest).length + steps = rest.length + steps + 1 := by
        simp only [List.length_cons]
        omega
      rw [count, shows, continues, map_map_except, Boundary.addLine_comp_addLines, List.map_cons]

theorem runFor_menu (playable : production.Playable) (stands : session.StandsAt production last)
    {record : Record} (found : production.graph.get? last = some record)
    (branch : production.kindOf? record = some .branch) (steps : Nat) :
    ∃ menu, production.MenuAt last menu ∧ (session.runFor (steps + 1)).1 =
      .ok ⟨[], .choices (menu.map fun option => (option.index, option.label))⟩ := by
  obtain ⟨rfl, playing, rfl⟩ := stands
  have here := Graph.address_of_get? found
  cases collected : Production.branchOptions 0 (session.production.branches record.address) with
  | error fault =>
      exact absurd (.menu branch collected) (playable.not_blocked (Graph.mem_of_get? found) fault)
  | ok menu =>
      have outcome : session.advance.1 = .ok (.choices menu) := by
        simp [advance, Playback.advance_of_menu playing found branch collected]
      rw [here] at collected
      refine ⟨menu, Production.menuAt_of_collected collected, ?_⟩
      rw [runFor_of_advance outcome]
      rfl

theorem runFor_ended (stands : session.StandsAt production last) {record : Record}
    (found : production.graph.get? last = some record)
    (ends : production.kindOf? record = some .terminate) (steps : Nat) :
    (session.runFor (steps + 1)).1 = .ok ⟨[], .ended⟩ := by
  obtain ⟨rfl, playing, rfl⟩ := stands
  have outcome : session.advance.1 = .ok .ended := by
    simp [advance, Playback.advance_of_end playing found ends]
  rw [runFor_of_advance outcome]
  rfl

theorem runFor_astray (stands : session.StandsAt production last)
    (missing : production.graph.get? last = none) (steps : Nat) :
    (session.runFor (steps + 1)).1 = .error (.addressMissing last) := by
  obtain ⟨rfl, playing, rfl⟩ := stands
  have outcome : session.advance.1 = .error (.addressMissing session.playback.view.cursor) := by
    simp [advance, Playback.advance_of_missing playing missing, Playback.failedStep]
  rw [runFor_of_advance outcome]
  rfl

/-- A session that picks an option and has not yet played the line that it leads to. -/
def pick (session : Session) (option : BranchOption) : Session where
  production := session.production
  playback := session.playback.moveTo option.target .presenting
  history := session.history.addAll
    ((session.production.graph.get? option.address).toList.map HistoryEntry.ofRecord)

theorem pick_standsAt (session : Session) (option : BranchOption) :
    (session.pick option).StandsAt session.production option.target :=
  ⟨rfl, Or.inr rfl, rfl⟩

theorem choose_eq_advance {index : Nat} {option : BranchOption}
    (awaiting : session.playback.phase = .awaitingChoice)
    (found : session.playback.pending[index]? = some option) :
    session.choose index = (session.pick option).advance := by
  have recorded : ((session.production.graph.get? option.address).toList.map
      Event.recorded).filterMap recordedEntry? =
        (session.production.graph.get? option.address).toList.map HistoryEntry.ofRecord := by
    cases session.production.graph.get? option.address <;> rfl
  rw [choose, Playback.choose_of_option awaiting found]
  simp only [Playback.follow, advance, after, pick, List.filterMap_append, recorded,
    History.addAll, List.foldl_append]
  rfl

theorem chooseToBoundary_eq {index : Nat} {option : BranchOption}
    (awaiting : session.playback.phase = .awaitingChoice)
    (found : session.playback.pending[index]? = some option) :
    session.chooseToBoundary index = (session.pick option).runToBoundary := by
  rw [chooseToBoundary, choose_eq_advance awaiting found]
  rfl

end Session

structure Production.RunsAlong (production : Production) (start : Address)
    (result : Except Fault Boundary) : Prop where
  menu {records : List Record} {last : Address} {record : Record} :
    production.Walk start records last → records.length ≤ 9999 →
    production.graph.get? last = some record → production.kindOf? record = some .branch →
    ∃ menu, production.MenuAt last menu ∧ result = .ok ⟨records.map production.shownAs,
      .choices (menu.map fun option => (option.index, option.label))⟩
  ended {records : List Record} {last : Address} {record : Record} :
    production.Walk start records last → records.length ≤ 9999 →
    production.graph.get? last = some record → production.kindOf? record = some .terminate →
    result = .ok ⟨records.map production.shownAs, .ended⟩
  astray {records : List Record} {last : Address} :
    production.Walk start records last → records.length ≤ 9999 →
    production.graph.get? last = none → result = .error (.addressMissing last)
  limit : (∀ records last, production.Walk start records last → production.Halts last →
      9999 < records.length) → result = .error (.stepLimit 10000)
  cyclic : production.lineCount < 10000 →
    (result = .error (.stepLimit 10000) ↔ production.Cycles start)

namespace Session

variable {session : Session} {production : Production} {start last : Address}
  {records : List Record}

theorem runToBoundary_of_walk (walk : production.Walk start records last)
    (short : records.length ≤ 9999) (stands : session.StandsAt production start) :
    ∃ (arrived : Session) (steps : Nat), arrived.StandsAt production last ∧
      session.runToBoundary.1 = (arrived.runFor (steps + 1)).1.map
        (Boundary.addLines (records.map production.shownAs)) := by
  obtain ⟨arrived, arrivedStands, shows⟩ := runFor_walk walk stands
  have room : stepLimit = records.length + (9999 - records.length + 1) := by
    rw [stepLimit]
    omega
  refine ⟨arrived, 9999 - records.length, arrivedStands, ?_⟩
  rw [runToBoundary, room]
  exact shows _

theorem runToBoundary_menu (playable : production.Playable)
    (walk : production.Walk start records last) (short : records.length ≤ 9999)
    (stands : session.StandsAt production start) {record : Record}
    (found : production.graph.get? last = some record)
    (branch : production.kindOf? record = some .branch) :
    ∃ menu, production.MenuAt last menu ∧
      session.runToBoundary.1 = .ok ⟨records.map production.shownAs,
        .choices (menu.map fun option => (option.index, option.label))⟩ := by
  obtain ⟨arrived, steps, arrivedStands, result⟩ := runToBoundary_of_walk walk short stands
  obtain ⟨menu, menuAt, offered⟩ := runFor_menu playable arrivedStands found branch steps
  refine ⟨menu, menuAt, ?_⟩
  rw [result, offered]
  simp [Except.map, Boundary.addLines]

theorem runToBoundary_ended (walk : production.Walk start records last)
    (short : records.length ≤ 9999) (stands : session.StandsAt production start) {record : Record}
    (found : production.graph.get? last = some record)
    (ends : production.kindOf? record = some .terminate) :
    session.runToBoundary.1 = .ok ⟨records.map production.shownAs, .ended⟩ := by
  obtain ⟨arrived, steps, arrivedStands, result⟩ := runToBoundary_of_walk walk short stands
  rw [result, runFor_ended arrivedStands found ends steps]
  simp [Except.map, Boundary.addLines]

theorem runToBoundary_astray (walk : production.Walk start records last)
    (short : records.length ≤ 9999) (stands : session.StandsAt production start)
    (missing : production.graph.get? last = none) :
    session.runToBoundary.1 = .error (.addressMissing last) := by
  obtain ⟨arrived, steps, arrivedStands, result⟩ := runToBoundary_of_walk walk short stands
  rw [result, runFor_astray arrivedStands missing steps]
  rfl

theorem runToBoundary_limit (playable : production.Playable)
    (stands : session.StandsAt production start)
    (endless : ∀ records last, production.Walk start records last → production.Halts last →
      9999 < records.length) :
    session.runToBoundary.1 = .error (.stepLimit 10000) := by
  rcases playable.walk_or_halts start stepLimit with
    ⟨records, last, walk, long⟩ | ⟨records, last, walk, short, halts⟩
  · obtain ⟨arrived, _, shows⟩ := runFor_walk walk stands
    have spent := shows 0
    rw [Nat.add_zero, long] at spent
    exact spent
  · have beyond := endless records last walk halts
    rw [stepLimit] at short
    omega

theorem runToBoundary_ne_limit (playable : production.Playable)
    (walk : production.Walk start records last) (short : records.length ≤ 9999)
    (halts : production.Halts last) (stands : session.StandsAt production start) :
    session.runToBoundary.1 ≠ .error (.stepLimit 10000) := by
  cases found : production.graph.get? last with
  | none => simp [runToBoundary_astray walk short stands found]
  | some record =>
      obtain ⟨kind, known, _⟩ := playable record (Graph.mem_of_get? found)
      cases kind with
      | speech => exact absurd (Or.inl known) (halts record found)
      | narration => exact absurd (Or.inr known) (halts record found)
      | branch =>
          obtain ⟨menu, _, result⟩ := runToBoundary_menu playable walk short stands found known
          simp [result]
      | terminate => simp [runToBoundary_ended walk short stands found known]

theorem runToBoundary_runsAlong (playable : production.Playable)
    (stands : session.StandsAt production start) :
    production.RunsAlong start session.runToBoundary.1 where
  menu walk short := runToBoundary_menu playable walk short stands
  ended walk short := runToBoundary_ended walk short stands
  astray walk short := runToBoundary_astray walk short stands
  limit := runToBoundary_limit playable stands
  cyclic few := by
    constructor
    · intro limit
      rcases playable.halts_or_cycles start few with cycles | ⟨records, last, walk, short, halts⟩
      · exact cycles
      · exact absurd limit
          (runToBoundary_ne_limit playable walk (Nat.le_of_lt_succ short) halts stands)
    · intro cycles
      apply runToBoundary_limit playable stands
      intro records last walk halts
      exact absurd halts (cycles.not_halts walk)

end Session

/-- Playing on shows exactly the lines of the walk from the cursor and gives what it ends at, or the
fault of the limit. -/
theorem boundary_endsWalk {text : String} {request : Request} (session : Session)
    (made : Production.ofText text request = .ok session.production) :
    (session.playback.phase = .ready ∨ session.playback.phase = .presenting →
      session.production.RunsAlong session.playback.view.cursor session.runToBoundary.1) ∧
    (∀ index option, session.playback.phase = .awaitingChoice →
      session.playback.pending[index]? = some option →
      session.production.RunsAlong option.target (session.chooseToBoundary index).1) ∧
    ∀ cast : Cast, session.production.cast = cast.lookup →
      ∀ record, session.production.kindOf? record ≠ some .narration →
        (session.production.shownAs record).label = session.production.config.labelOpen ++
          record.speaker ++ session.production.config.labelClose := by
  have playable := Production.ofText_playable made
  refine ⟨?_, ?_, ?_⟩
  · intro playing
    exact Session.runToBoundary_runsAlong playable ⟨rfl, playing, rfl⟩
  · intro index option awaiting found
    rw [Session.chooseToBoundary_eq awaiting found]
    exact Session.runToBoundary_runsAlong playable (session.pick_standsAt option)
  · intro cast listed record spoken
    simp only [Production.shownAs, if_neg spoken, Production.creditOf_of_listed listed]

def roundabout : Production :=
  { crossroads with
    graph := ⟨[⟨5, "T", "", "Again", some 5, "default"⟩], by unfold Ascending; decide⟩
    cast := .nobody
    entry := 5 }

theorem boundary_atCrossroads :
    let opened : Session := ⟨crossroads, crossroads.opening, .empty⟩
    let offering : Session :=
      ⟨crossroads, crossroads.reached [.host .advance, .host .advance], .empty⟩
    let circling : Session := ⟨roundabout, roundabout.opening, .empty⟩
    Production.ofText (crossroadsText "9") { cast := crossroads.cast } = .ok crossroads ∧
    (∃ menu, crossroads.MenuAt 2 menu ∧ opened.runToBoundary.1 =
      .ok ⟨[⟨1, "【Aoi】", "  Where now?"⟩],
        .choices (menu.map fun option => (option.index, option.label))⟩) ∧
    (offering.chooseToBoundary 0).1 = .ok ⟨[], .ended⟩ ∧
    (offering.chooseToBoundary 1).1 = .error (.addressMissing 9) ∧
    Production.ofText "at,tag,who,what,next\n5,T,,Again,5" {} = .ok roundabout ∧
    circling.runToBoundary.1 = .error (.stepLimit 10000) := by
  intro opened offering circling
  have made : Production.ofText (crossroadsText "9") { cast := crossroads.cast } =
      .ok crossroads := rfl
  have madeRound : Production.ofText "at,tag,who,what,next\n5,T,,Again,5" {} = .ok roundabout := rfl
  have plays : crossroads.RunsAlong 1 opened.runToBoundary.1 :=
    (boundary_endsWalk opened made).1 (Or.inl rfl)
  have left : crossroads.RunsAlong 4 (offering.chooseToBoundary 0).1 :=
    (boundary_endsWalk offering made).2.1 0 ⟨0, 2, "Left", 4⟩ (by decide +kernel) (by decide +kernel)
  have right : crossroads.RunsAlong 9 (offering.chooseToBoundary 1).1 :=
    (boundary_endsWalk offering made).2.1 1 ⟨1, 3, "Right", 9⟩ (by decide +kernel) (by decide +kernel)
  have circles : roundabout.RunsAlong 5 circling.runToBoundary.1 :=
    (boundary_endsWalk circling madeRound).1 (Or.inl rfl)
  let asked : Record := ⟨1, "W", "Aoi", "Where now?", some 2, "smile"⟩
  have line : crossroads.Walk 1 [asked] 2 := .step rfl (by decide +kernel) rfl (.stay 2)
  have shown : [asked].map crossroads.shownAs = [⟨1, "【Aoi】", "  Where now?"⟩] := by
    decide +kernel
  have branch : crossroads.graph.get? 2 = some ⟨2, "O", "", "Left", some 4, "default"⟩ := rfl
  have ending : crossroads.graph.get? 4 = some ⟨4, "END", "", "", none, "default"⟩ := rfl
  have round : roundabout.Walk 5 [⟨5, "T", "", "Again", some 5, "default"⟩] 5 :=
    .step rfl (by decide +kernel) rfl (.stay 5)
  refine ⟨made, ?_, ?_, ?_, madeRound, ?_⟩
  · rw [← shown]
    exact plays.menu line (by decide) branch (by decide +kernel)
  · exact left.ended (.stay 4) (Nat.zero_le _) ending (by decide +kernel)
  · exact right.astray (.stay 9) (Nat.zero_le _) rfl
  · exact (circles.cyclic (by decide +kernel)).mpr
      ⟨[], _, 5, .stay 5, round, List.cons_ne_nil _ _⟩

end Playscript
