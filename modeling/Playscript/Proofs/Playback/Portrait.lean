import Playscript.Proofs.Cast.Directory
import Playscript.Proofs.Playback.Course
import Playscript.Proofs.Playback.View

/-!
The portrait and the avatar of the line on the screen. With a cast in which whoever has a portrait
has a look to show, and lines that all name a look, one is never on the screen without the other.
-/

namespace Playscript

def Cast.Dressed (cast : Cast) : Prop :=
  ∀ speaker ∈ cast.speakers, speaker.hasPortrait = true ↔ speaker.variants ≠ []

namespace Production

variable {production : Production} {cast : Cast} {record : Record} {view : View}

theorem SpokenLook.avatar_iff_portrait (look : production.SpokenLook cast record view)
    (dressed : cast.Dressed) (variant : record.variant ≠ "") :
    view.avatar = true ↔ view.portrait ≠ none := by
  rw [look.avatar]
  constructor
  · rintro ⟨speaker, casts, portrayed⟩ unseen
    rcases look.unseen.mp unseen with nobody | noVariant | ⟨other, castsOther, bare⟩
    · have found := (cast.find?_eq_some_iff _ _).mpr casts
      rw [(cast.find?_eq_none_iff _).mpr nobody] at found
      contradiction
    · exact variant noVariant
    · obtain rfl := casts.unique castsOther
      exact (dressed speaker casts.mem).mp portrayed bare
  · intro seen
    obtain ⟨portrait, shown⟩ := Option.ne_none_iff_exists'.mp seen
    obtain ⟨speaker, look, casts, wears, _⟩ := (look.portrait portrait).mp shown
    exact ⟨speaker, casts, (dressed speaker casts.mem).mpr (List.ne_nil_of_mem wears.mem)⟩

theorem LookOf.avatar_iff_portrait (look : production.LookOf cast record view)
    (dressed : cast.Dressed) (variant : record.variant ≠ "") :
    view.avatar = true ↔ view.portrait ≠ none := by
  rcases look with ⟨_, told⟩ | ⟨_, spoken⟩
  · simp [told.avatar, told.portrait]
  · exact spoken.avatar_iff_portrait dressed variant

theorem LookOf.portrait_of_speaker (look : production.LookOf cast record view) {portrait : Portrait}
    (shown : view.portrait = some portrait) :
    ∃ speaker ∈ cast.speakers, ∃ variant ∈ speaker.variants,
      speaker.name = record.speaker ∧ portrait = ⟨record.speaker, variant.name, variant.asset⟩ := by
  rcases look with ⟨_, told⟩ | ⟨_, spoken⟩
  · simp [told.portrait] at shown
  · obtain ⟨speaker, variant, casts, wears, rfl⟩ := (spoken.portrait portrait).mp shown
    have named : speaker.name = record.speaker := casts.2.1
    exact ⟨speaker, casts.mem, variant, wears.mem, named, by rw [named]⟩

end Production

/-- With a cast from a directory the avatar is on the screen exactly when a portrait is. -/
theorem avatar_withPortrait {disk : Disk} {path text : String} {cast : Cast} {request : Request}
    {production : Production} (scanned : disk.loadCastDirectory path = .ok cast)
    (listed : request.cast = cast.lookup) (usual : request.config.defaultVariant ≠ "")
    (made : Production.ofText text request = .ok production) (moments : List Moment) :
    let view := (production.reached moments).view
    (view.avatar = true ↔ view.portrait ≠ none) ∧
    ∀ portrait, view.portrait = some portrait → ∃ address record,
      view.shown = some address ∧ production.graph.get? address = some record ∧
      ∃ speaker ∈ cast.speakers, ∃ variant ∈ speaker.variants,
        speaker.name = record.speaker ∧
        portrait = ⟨record.speaker, variant.name, variant.asset⟩ := by
  intro view
  have invariant : ViewInvariant production (production.reached moments) :=
    (ViewInvariant.kept production (Production.ofText_entry made)).reached moments
  obtain ⟨report, loaded, prepared⟩ := (Production.ofText_eq_ok_iff _ _ _).mp made
  obtain ⟨_, _, _, _, rfl⟩ := (Production.prepare_eq_ok_iff _ _ _).mp prepared
  obtain ⟨node, _, shelved⟩ := (disk.loadCastDirectory_eq_ok_iff path _).mp scanned
  cases shown : view.shown with
  | none =>
      have blank : view = { cursor := view.cursor } := (invariant.blank shown).1
      rw [blank]
      simp
  | some address =>
      obtain ⟨record, kind, target, _, found, known, shows, _⟩ := invariant.lit address shown
      have look := (shows.lookOf listed known).of_cursor
      have variant := Table.load_variant_ne usual loaded record (Graph.mem_of_get? found)
      have dressed : cast.Dressed := by
        rw [← shelved]
        exact fun speaker member => Cast.ofDirectory_hasPortrait_iff member
      refine ⟨look.avatar_iff_portrait dressed variant, ?_⟩
      intro portrait seen
      exact ⟨address, record, rfl, found, look.portrait_of_speaker seen⟩

def wardrobeShelves : Node := .directory [
  ("Ren", .directory []), ("notes.txt", .file []),
  ("Aoi", .directory [("smile.png", .file []), ("calm.png", .file [])])]

def wardrobe : Disk where
  root := .directory [("cast", wardrobeShelves)]
  workingDirectory := "/"

def wardrobeCast : Cast :=
  ⟨[⟨"Aoi", true, [⟨"calm", "Aoi/calm.png"⟩, ⟨"smile", "Aoi/smile.png"⟩]⟩, ⟨"Ren", false, []⟩]⟩

def fitting : Production :=
  { crossroads with
    graph := ⟨[
      ⟨1, "W", "Aoi", "How is it?", some 2, "angry"⟩, ⟨2, "W", "Ren", "Fine.", some 3, "default"⟩,
      ⟨3, "END", "", "", none, "default"⟩], by unfold Ascending; decide⟩
    cast := wardrobeCast }

def fittingText : String :=
  "at,tag,who,what,next,look\n1,W,Aoi,How is it?,2,angry\n2,W,Ren,Fine.,3\n3,END,,,"

theorem avatar_atWardrobe :
    let aoi := (fitting.reached [.host .advance]).view
    let ren := (fitting.reached [.host .advance, .host .advance]).view
    wardrobe.loadCastDirectory "/cast" = .ok wardrobeCast ∧
    Production.ofText fittingText { cast := wardrobeCast } = .ok fitting ∧
    fitting.config.defaultVariant ≠ "" ∧
    aoi.portrait = some ⟨"Aoi", "calm", "Aoi/calm.png"⟩ ∧ aoi.avatar = true ∧
    ren.portrait = none ∧ ren.avatar = false ∧ ren.label = "【Ren】" := by
  intro aoi ren
  have found : wardrobe.find "/cast" = .ok wardrobeShelves := rfl
  have shelves : wardrobeShelves.visibleEntries =
      [("Aoi", .directory [("smile.png", .file []), ("calm.png", .file [])]),
        ("Ren", .directory []), ("notes.txt", .file [])] := by
    simp [wardrobeShelves, Node.visibleEntries, Node.entries, isHidden, List.mergeSort,
      List.MergeSort.Internal.splitInTwo]
  have looks : (Node.directory [("smile.png", .file []), ("calm.png", .file [])]).visibleEntries =
      [("calm.png", .file []), ("smile.png", .file [])] := by
    simp [Node.visibleEntries, Node.entries, isHidden, List.mergeSort,
      List.MergeSort.Internal.splitInTwo]
  have noLooks : (Node.directory []).visibleEntries = [] := by
    simp [Node.visibleEntries, Node.entries]
  have listed : Cast.ofDirectory wardrobeShelves = wardrobeCast := by
    simp only [Cast.ofDirectory, shelves, List.filterMap_cons, Speaker.ofEntry?, Node.isDirectory,
      if_true, looks, noLooks, Variant.ofEntry?]
    decide +kernel
  have scanned : wardrobe.loadCastDirectory "/cast" = .ok wardrobeCast :=
    (Disk.loadCastDirectory_eq_ok_iff _ _ _).mpr ⟨wardrobeShelves, found, listed⟩
  have usual : fitting.config.defaultVariant ≠ "" := by decide
  have made : Production.ofText fittingText { cast := wardrobeCast } = .ok fitting := rfl
  have seen : aoi.portrait = some ⟨"Aoi", "calm", "Aoi/calm.png"⟩ := by decide +kernel
  have unseen : ren.portrait = none := by decide +kernel
  obtain ⟨withPortrait, _⟩ := avatar_withPortrait scanned rfl usual made [.host .advance]
  obtain ⟨without, _⟩ := avatar_withPortrait scanned rfl usual made [.host .advance, .host .advance]
  refine ⟨scanned, made, usual, seen, ?_, unseen, ?_, by decide +kernel⟩
  · apply withPortrait.mpr
    change aoi.portrait ≠ none
    rw [seen]
    exact Option.some_ne_none _
  · rw [← Bool.not_eq_true]
    exact fun visible => without.mp visible unseen

end Playscript
