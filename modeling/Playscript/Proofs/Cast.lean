import Playscript.Cast

/-!
Who a name stands for, and how they look. Of several with one name the first counts.
-/

namespace Playscript

/-- The first member of a list that has this name. -/
def FirstNamed {Member : Type} (nameOf : Member → String) (members : List Member) (name : String)
    (member : Member) : Prop :=
  nameOf member = name ∧ ∃ earlier later, members = earlier ++ member :: later ∧
    ∀ other ∈ earlier, nameOf other ≠ name

theorem find?_name_eq_some_iff {Member : Type} (nameOf : Member → String) (members : List Member)
    (name : String) (member : Member) :
    (members.find? fun other => nameOf other == name) = some member ↔
      FirstNamed nameOf members name member := by
  simp [FirstNamed, List.find?_eq_some_iff_append]

theorem find?_name_eq_none_iff {Member : Type} (nameOf : Member → String) (members : List Member)
    (name : String) :
    (members.find? fun other => nameOf other == name) = none ↔
      ∀ member ∈ members, nameOf member ≠ name := by
  simp

theorem FirstNamed.mem {Member : Type} {nameOf : Member → String} {members : List Member}
    {name : String} {member : Member} (known : FirstNamed nameOf members name member) :
    member ∈ members := by
  obtain ⟨_, earlier, later, rfl, _⟩ := known
  exact List.mem_append_right earlier List.mem_cons_self

theorem Cast.lookup_empty : ({} : Cast).lookup = .nobody := by
  have missing : ({} : Cast).find? = fun _ => none := by
    funext name
    simp [find?]
  rw [lookup, missing]
  rfl

def Cast.Casts (cast : Cast) (name : String) (speaker : Speaker) : Prop :=
  name ≠ "" ∧ FirstNamed Speaker.name cast.speakers name speaker

theorem Cast.find?_eq_some_iff (cast : Cast) (name : String) (speaker : Speaker) :
    cast.find? name = some speaker ↔ cast.Casts name speaker := by
  unfold Casts
  rw [← find?_name_eq_some_iff]
  by_cases unnamed : name = ""
  · simp [find?, unnamed]
  · simp [find?, unnamed]

theorem Cast.find?_eq_none_iff (cast : Cast) (name : String) :
    cast.find? name = none ↔ name = "" ∨ ∀ speaker ∈ cast.speakers, speaker.name ≠ name := by
  rw [← find?_name_eq_none_iff]
  by_cases unnamed : name = ""
  · simp [find?, unnamed]
  · simp [find?, unnamed]

theorem Cast.Casts.mem {cast : Cast} {name : String} {speaker : Speaker}
    (casts : cast.Casts name speaker) : speaker ∈ cast.speakers :=
  casts.2.mem

theorem Cast.Casts.unique {cast : Cast} {name : String} {speaker other : Speaker}
    (casts : cast.Casts name speaker) (castsOther : cast.Casts name other) : speaker = other := by
  rw [← Cast.find?_eq_some_iff] at casts castsOther
  exact Option.some.inj (casts.symm.trans castsOther)

/-- The look that a line asks of a speaker: the one of this name, or the first if none has it. -/
inductive Speaker.Wears (speaker : Speaker) (name : String) : Variant → Prop
  | named {variant : Variant} : name ≠ "" → FirstNamed Variant.name speaker.variants name variant →
      Wears speaker name variant
  | first {variant : Variant} : name ≠ "" →
      (∀ other ∈ speaker.variants, other.name ≠ name) →
      speaker.variants.head? = some variant → Wears speaker name variant

theorem Speaker.Wears.mem {speaker : Speaker} {name : String} {variant : Variant}
    (wears : speaker.Wears name variant) : variant ∈ speaker.variants := by
  cases wears with
  | named _ known => exact known.mem
  | first _ _ first => exact List.mem_of_head? first

theorem Speaker.variant?_eq_some_iff (speaker : Speaker) (name : String) (variant : Variant) :
    speaker.variant? name = some variant ↔ speaker.Wears name variant := by
  constructor
  · intro found
    by_cases unnamed : name = ""
    · simp [variant?, unnamed] at found
    · simp only [variant?, String.isEmpty_iff, unnamed, if_false, Option.or_eq_some_iff] at found
      rcases found with known | ⟨unknown, first⟩
      · exact .named unnamed ((find?_name_eq_some_iff _ _ _ _).mp known)
      · exact .first unnamed ((find?_name_eq_none_iff _ _ _).mp unknown) first
  · intro wears
    cases wears with
    | named asked known =>
        have found := (find?_name_eq_some_iff _ _ _ _).mpr known
        simp [variant?, asked, found]
    | first asked unknown first =>
        have missing := (find?_name_eq_none_iff _ _ _).mpr unknown
        simp [variant?, asked, missing, first]

theorem Speaker.variant?_eq_none_iff (speaker : Speaker) (name : String) :
    speaker.variant? name = none ↔ name = "" ∨ speaker.variants = [] := by
  by_cases unnamed : name = ""
  · simp [variant?, unnamed]
  · cases looks : speaker.variants with
    | nil => simp [variant?, looks]
    | cons first rest => simp [variant?, unnamed, looks]

theorem Speaker.portrait?_eq_some_iff (speaker : Speaker) (name : String) (portrait : Portrait) :
    speaker.portrait? name = some portrait ↔ ∃ variant, speaker.Wears name variant ∧
      portrait = ⟨speaker.name, variant.name, variant.asset⟩ := by
  simp only [portrait?, Option.map_eq_some_iff, variant?_eq_some_iff, portraitOf]
  exact exists_congr fun variant => and_congr_right fun _ => eq_comm

theorem Speaker.portrait?_eq_none_iff (speaker : Speaker) (name : String) :
    speaker.portrait? name = none ↔ name = "" ∨ speaker.variants = [] := by
  rw [portrait?, Option.map_eq_none_iff, variant?_eq_none_iff]

end Playscript
