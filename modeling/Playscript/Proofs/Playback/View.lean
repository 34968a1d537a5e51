import Playscript.Proofs.Cast
import Playscript.Proofs.Playback.Run

/-!
What is on the screen: nothing, or one line of the graph with the look that its own record, the
configuration and the cast give it.
-/

namespace Playscript

namespace Production

structure ToldLook (production : Production) (view : View) : Prop where
  label : view.label = production.config.emptyField
  portrait : view.portrait = none
  avatar : view.avatar = false

structure SpokenLook (production : Production) (cast : Cast) (record : Record) (view : View) :
    Prop where
  label : view.label = production.config.labelOpen ++ record.speaker ++ production.config.labelClose
  avatar : view.avatar = true ↔
    ∃ speaker, cast.Casts record.speaker speaker ∧ speaker.hasPortrait = true
  portrait (portrait : Portrait) : view.portrait = some portrait ↔
    ∃ speaker variant, cast.Casts record.speaker speaker ∧
      speaker.Wears record.variant variant ∧
      portrait = ⟨speaker.name, variant.name, variant.asset⟩
  unseen : view.portrait = none ↔
    (record.speaker = "" ∨ ∀ speaker ∈ cast.speakers, speaker.name ≠ record.speaker) ∨
    record.variant = "" ∨
    ∃ speaker, cast.Casts record.speaker speaker ∧ speaker.variants = []

/-- The name that a speaker is shown by: that of whoever the cast finds, or the one asked for. -/
def creditOf (production : Production) (name : String) : String :=
  ((production.cast.find? name).map Speaker.name).getD name

theorem creditOf_of_listed {production : Production} {cast : Cast}
    (listed : production.cast = cast.lookup) (name : String) : production.creditOf name = name := by
  simp only [creditOf, listed, Cast.lookup]
  cases found : cast.find? name with
  | none => rfl
  | some speaker => exact ((cast.find?_eq_some_iff name speaker).mp found).2.1

theorem showSpeech_label (production : Production) (record : Record) (target : Address) :
    (production.showSpeech record target).label =
      production.config.labelOpen ++ production.creditOf record.speaker ++
        production.config.labelClose := by
  simp only [showSpeech, creditOf]
  cases production.cast.find? record.speaker <;> rfl

theorem showNarration_look (production : Production) (record : Record) (target : Address) :
    production.ToldLook (production.showNarration record target) :=
  ⟨rfl, rfl, rfl⟩

theorem showSpeech_look {production : Production} {cast : Cast}
    (listed : production.cast = cast.lookup) (record : Record) (target : Address) :
    production.SpokenLook cast record (production.showSpeech record target) := by
  have label := production.showSpeech_label record target
  rw [creditOf_of_listed listed] at label
  cases found : cast.find? record.speaker with
  | none =>
      have nobody := (cast.find?_eq_none_iff record.speaker).mp found
      have uncast : ∀ speaker, ¬cast.Casts record.speaker speaker := by
        intro speaker casts
        rw [← Cast.find?_eq_some_iff, found] at casts
        contradiction
      simp only [showSpeech, listed, Cast.lookup, found, showLine] at label ⊢
      exact ⟨label, by simp [uncast], by simp [uncast], by simp [nobody]⟩
  | some speaker =>
      have known : ∀ other, cast.Casts record.speaker other ↔ other = speaker := by
        intro other
        rw [← Cast.find?_eq_some_iff, found, Option.some.injEq, eq_comm]
      have somebody : ¬(record.speaker = "" ∨
          ∀ other ∈ cast.speakers, other.name ≠ record.speaker) := by
        rw [← Cast.find?_eq_none_iff, found]
        simp
      simp only [showSpeech, listed, Cast.lookup, found, showLine] at label ⊢
      constructor
      · exact label
      · simp [known]
      · intro portrait
        rw [Speaker.portrait?_eq_some_iff]
        simp [known]
      · rw [Speaker.portrait?_eq_none_iff]
        simp only [known, exists_eq_left, somebody, false_or]

end Production

def Production.LookOf (production : Production) (cast : Cast) (record : Record) (view : View) :
    Prop :=
  (production.kindOf? record = some .narration ∧ production.ToldLook view) ∨
    (production.kindOf? record = some .speech ∧ production.SpokenLook cast record view)

theorem Production.Shows.lookOf {production : Production} {cast : Cast} {record : Record}
    {target : Address} {kind : LineKind} {view : View}
    (shows : production.Shows record target kind view) (listed : production.cast = cast.lookup)
    (known : production.kindOf? record = some kind) : production.LookOf cast record view := by
  cases shows with
  | spoken => exact Or.inr ⟨known, showSpeech_look listed record target⟩
  | told => exact Or.inl ⟨known, production.showNarration_look record target⟩

theorem Production.LookOf.of_cursor {production : Production} {cast : Cast} {record : Record}
    {view : View} {cursor : Address}
    (look : production.LookOf cast record { view with cursor := cursor }) :
    production.LookOf cast record view := by
  rcases look with ⟨known, told⟩ | ⟨known, spoken⟩
  · exact Or.inl ⟨known, told.label, told.portrait, told.avatar⟩
  · exact Or.inr ⟨known, spoken.label, spoken.avatar, spoken.portrait, spoken.unseen⟩

structure ViewInvariant (production : Production) (playback : Playback) : Prop where
  blank : playback.view.shown = none →
    playback.view = { cursor := playback.view.cursor } ∧ playback.reveal = none
  -- The cursor may have moved on since the line was shown, hence the view at its target.
  lit (address : Address) : playback.view.shown = some address → ∃ record kind target reveal,
    production.graph.get? address = some record ∧
    production.kindOf? record = some kind ∧
    production.Shows record target kind { playback.view with cursor := target } ∧
    playback.reveal = some reveal ∧
    reveal.progress.total = production.units.measure playback.view.body ∧
    reveal.progress.Sound
  ready : playback.phase = .ready →
    playback.view.shown = none ∧ production.graph.contains playback.view.cursor = true

namespace ViewInvariant

variable {production : Production} {playback : Playback}

theorem advance (invariant : ViewInvariant production playback) :
    ViewInvariant production (playback.advance production).next := by
  have advanced := Playback.advance_advanced production playback
  generalize playback.advance production = step at advanced ⊢
  cases advanced with
  | finished | waiting | astray | blocked => exact invariant
  | offered | ended => exact ⟨invariant.blank, invariant.lit, fun ready => nomatch ready⟩
  | @shown record target kind view _ found known _ shows =>
      have here := Graph.address_of_get? found
      constructor
      · intro unshown
        simp [Playback.present, shows.shown] at unshown
      · intro address shown
        obtain rfl : record.address = address := by
          simpa [Playback.present, shows.shown] using shown
        refine ⟨record, kind, target, _, by rw [here]; exact found, known, ?_, rfl, rfl, ?_⟩
        · obtain rfl := shows.cursor
          exact shows
        · exact Progress.start_sound _
      · exact fun ready => nomatch ready

theorem moveTo (invariant : ViewInvariant production playback) (address : Address) (phase : Phase)
    (ready : phase = .ready →
      playback.phase = .ready ∧ production.graph.contains address = true) :
    ViewInvariant production (playback.moveTo address phase) := by
  constructor
  · intro unshown
    obtain ⟨blank, still⟩ := invariant.blank unshown
    constructor
    · rw [Playback.moveTo, blank]
    · exact still
  · exact invariant.lit
  · intro isReady
    obtain ⟨wasReady, present⟩ := ready isReady
    exact ⟨(invariant.ready wasReady).1, present⟩

theorem turn (invariant : ViewInvariant production playback) {before after : Reveal}
    (shown : playback.reveal = some before) (turn : before.Turn after) :
    ViewInvariant production { playback with reveal := some after } := by
  constructor
  · intro unshown
    rw [(invariant.blank unshown).2] at shown
    contradiction
  · intro address lit
    obtain ⟨record, kind, target, reveal, found, known, shows, isReveal, total, sound⟩ :=
      invariant.lit address lit
    obtain rfl : before = reveal := Option.some.inj (shown.symm.trans isReveal)
    exact ⟨record, kind, target, after, found, known, shows, rfl, turn.total.trans total,
      turn.sound sound⟩
  · exact invariant.ready

theorem kept (production : Production)
    (entry : production.graph.contains production.entry = true) :
    Kept production (ViewInvariant production) where
  opening := ⟨fun _ => ⟨rfl, rfl⟩, fun _ shown => (nomatch shown), fun _ => ⟨rfl, entry⟩⟩
  advance _ invariant := invariant.advance
  follow _ _ invariant _ _ := invariant.moveTo _ _ fun ready => nomatch ready
  jump playback address phase invariant present moved := by
    apply invariant.moveTo
    intro ready
    rcases moved with ⟨_, wasReady⟩ | presenting
    · exact ⟨wasReady, present⟩
    · rw [presenting] at ready
      contradiction
  reveal _ _ _ invariant shown turn := invariant.turn shown turn

end ViewInvariant

/-- What is on the screen never mixes two lines: everything is that of one record, and so is the
reveal. -/
theorem view_ofOneLine {graph : Graph} {request : Request} {cast : Cast} {production : Production}
    (listed : request.cast = cast.lookup)
    (prepared : Production.prepare graph request = .ok production) (moments : List Moment) :
    let playback := production.reached moments
    (playback.view.shown = none →
      playback.view.label = "" ∧ playback.view.body = "" ∧ playback.view.portrait = none ∧
      playback.view.avatar = false ∧ playback.reveal = none) ∧
    (∀ address, playback.view.shown = some address → ∃ record reveal,
      production.graph.get? address = some record ∧
      playback.view.body = production.config.bodyIndent ++ record.body ∧
      production.LookOf cast record playback.view ∧
      playback.reveal = some reveal ∧
      reveal.progress.total = production.units.measure playback.view.body ∧
      reveal.progress.visible ≤ reveal.progress.total) ∧
    (playback.phase = .ready →
      playback.view.shown = none ∧ production.graph.contains playback.view.cursor = true) := by
  intro playback
  obtain ⟨_, first, _, entry, rfl⟩ := (Production.prepare_eq_ok_iff _ _ _).mp prepared
  have invariant : ViewInvariant _ playback := (ViewInvariant.kept _ entry).reached moments
  refine ⟨?_, ?_, invariant.ready⟩
  · intro unshown
    obtain ⟨blank, still⟩ := invariant.blank unshown
    rw [blank]
    exact ⟨rfl, rfl, rfl, rfl, still⟩
  · intro address lit
    obtain ⟨record, kind, target, reveal, found, known, shows, running, total, sound⟩ :=
      invariant.lit address lit
    exact ⟨record, reveal, found, shows.body, (shows.lookOf listed known).of_cursor, running, total,
      sound.bounded⟩

theorem view_atCrossroads :
    let opening := crossroads.reached []
    let playback := crossroads.reached [.host .advance, .host .tick]
    let deserted : Production := { crossroads with cast := .nobody }
    let alone := deserted.reached [.host .advance]
    Production.prepare crossroads.graph { cast := crossroadsCast } = .ok crossroads ∧
    opening.view.shown = none ∧ opening.view.portrait = none ∧
    playback.view.shown = some 1 ∧
    playback.view.portrait = some ⟨"Aoi", "smile", "aoi/smile.png"⟩ ∧
    (∃ record reveal, crossroads.graph.get? 1 = some record ∧
      crossroads.LookOf crossroadsCast record playback.view ∧ playback.reveal = some reveal ∧
      reveal.progress.total = crossroads.units.measure playback.view.body) ∧
    Production.prepare crossroads.graph {} = .ok deserted ∧
    alone.view.label = "【Aoi】" ∧
    ∃ record, crossroads.graph.get? 1 = some record ∧ deserted.LookOf {} record alone.view := by
  intro opening playback deserted alone
  have prepared : Production.prepare crossroads.graph { cast := crossroadsCast } =
      .ok crossroads := rfl
  have lit : playback.view.shown = some 1 := by decide +kernel
  obtain ⟨blank, _, ready⟩ := view_ofOneLine rfl prepared []
  obtain ⟨unshown, _⟩ := ready rfl
  obtain ⟨_, one, _⟩ := view_ofOneLine rfl prepared [.host .advance, .host .tick]
  obtain ⟨record, reveal, found, _, look, running, total, _⟩ := one 1 lit
  have bare : Production.prepare crossroads.graph {} = .ok deserted := rfl
  obtain ⟨_, oneAlone, _⟩ := view_ofOneLine Cast.lookup_empty.symm bare [.host .advance]
  obtain ⟨recordAlone, _, foundAlone, _, lookAlone, _⟩ := oneAlone 1 (by decide +kernel)
  exact ⟨prepared, unshown, (blank unshown).2.2.1, lit, by decide +kernel,
    ⟨record, reveal, found, look, running, total⟩, bare, by decide +kernel, recordAlone, foundAlone,
    lookAlone⟩

end Playscript
