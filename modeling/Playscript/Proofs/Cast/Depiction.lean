import Mathlib.Data.List.Forall2
import Mathlib.Data.List.Sort
import Playscript.Proofs.Cast.Directory
import Playscript.Proofs.Text.FileName

/-!
The cast that a directory stands for, told by what is in the directory and not by how that is
read. There is one such cast, and a scan finds it.
-/

namespace Playscript

inductive Node.WellNamed : Node → Prop
  | file (content : List UInt8) : WellNamed (.file content)
  | directory {entries : List (String × Node)} : (entries.map Prod.fst).Nodup →
      (∀ entry ∈ entries, entry.2.WellNamed) → WellNamed (.directory entries)

/-- The names of the directories in a node, or of the files in it, which are not hidden, in
ascending order. -/
structure Node.Lists (node : Node) (directories : Bool) (names : List String) : Prop where
  ascending : names.Pairwise (· < ·)
  mem_iff (name : String) : name ∈ names ↔
    isHidden name = false ∧ ∃ inner, (name, inner) ∈ node.entries ∧ inner.isDirectory = directories

structure Variant.Depicts (speaker fileName : String) (variant : Variant) : Prop where
  name : Text.IsStem fileName variant.name
  asset : variant.asset = forwardSlashes (speaker ++ "/" ++ fileName)

structure Speaker.Depicts (speaker : Speaker) (node : Node) : Prop where
  looks : ∃ names, node.Lists false names ∧
    List.Forall₂ (Variant.Depicts speaker.name) names speaker.variants
  hasPortrait : speaker.hasPortrait = false ↔ speaker.variants = []

/-- The cast whose speakers are the directories in a node. -/
structure Cast.Depicts (cast : Cast) (node : Node) : Prop where
  names : node.Lists true (cast.speakers.map (·.name))
  speakers : ∀ speaker ∈ cast.speakers, ∀ inner, (speaker.name, inner) ∈ node.entries →
    speaker.Depicts inner

section Unique

variable {node : Node}

theorem Node.Lists.unique {directories : Bool} {names others : List String}
    (left : node.Lists directories names) (right : node.Lists directories others) :
    names = others :=
  left.ascending.eq_of_mem_iff right.ascending fun name => by rw [left.mem_iff, right.mem_iff]

theorem Variant.Depicts.unique {speaker fileName : String} {variant other : Variant}
    (left : Variant.Depicts speaker fileName variant)
    (right : Variant.Depicts speaker fileName other) : variant = other := by
  obtain ⟨name, asset⟩ := variant
  obtain ⟨otherName, otherAsset⟩ := other
  have sameName : name = otherName :=
    (Text.isStem_iff.mp left.name).symm.trans (Text.isStem_iff.mp right.name)
  have sameAsset : asset = otherAsset := left.asset.trans right.asset.symm
  rw [sameName, sameAsset]

theorem Speaker.Depicts.unique {speaker other : Speaker} (left : speaker.Depicts node)
    (right : other.Depicts node) (same : speaker.name = other.name) : speaker = other := by
  obtain ⟨name, portrait, variants⟩ := speaker
  obtain ⟨otherName, otherPortrait, otherVariants⟩ := other
  obtain rfl : name = otherName := same
  obtain ⟨names, listed, shown⟩ := left.looks
  obtain ⟨otherNames, otherListed, otherShown⟩ := right.looks
  obtain rfl := listed.unique otherListed
  obtain rfl : variants = otherVariants :=
    List.right_unique_forall₂' (fun _ _ _ one another => one.unique another) shown otherShown
  have samePortrait : portrait = false ↔ otherPortrait = false :=
    left.hasPortrait.trans right.hasPortrait.symm
  obtain rfl : portrait = otherPortrait := by
    rw [Bool.eq_iff_iff, ← not_iff_not]
    simpa using samePortrait
  rfl

theorem Cast.Depicts.subset {cast other : Cast} (left : cast.Depicts node)
    (right : other.Depicts node) : cast.speakers ⊆ other.speakers := by
  intro speaker listed
  have sameNames := left.names.unique right.names
  have named : speaker.name ∈ cast.speakers.map (·.name) := List.mem_map_of_mem listed
  obtain ⟨_, inner, present, _⟩ := (left.names.mem_iff _).mp named
  rw [sameNames] at named
  obtain ⟨namesake, otherListed, same⟩ := List.mem_map.mp named
  have shown : speaker.Depicts inner := left.speakers speaker listed inner present
  have otherShown : namesake.Depicts inner :=
    right.speakers namesake otherListed inner (same ▸ present)
  rwa [shown.unique otherShown same.symm]

theorem Cast.Depicts.unique {cast other : Cast} (left : cast.Depicts node)
    (right : other.Depicts node) : cast = other := by
  have ascending := List.pairwise_map.mp left.names.ascending
  have otherAscending := List.pairwise_map.mp right.names.ascending
  have same : cast.speakers = other.speakers :=
    List.Subset.antisymm_of_pairwise (r := InvImage (· < ·) Speaker.name) ascending otherAscending
      (left.subset right) (right.subset left)
  obtain ⟨speakers⟩ := cast
  obtain rfl : speakers = other.speakers := same
  rfl

end Unique

theorem Node.mem_visibleEntries_iff {node : Node} {entry : String × Node} :
    entry ∈ node.visibleEntries ↔ isHidden entry.1 = false ∧ entry ∈ node.entries := by
  simp [visibleEntries, and_comm]

theorem Node.wellNamed_directory_iff {entries : List (String × Node)} :
    (directory entries).WellNamed ↔
      (entries.map Prod.fst).Nodup ∧ ∀ entry ∈ entries, entry.2.WellNamed := by
  constructor
  · intro named
    cases named with
    | directory distinct within => exact ⟨distinct, within⟩
  · rintro ⟨distinct, within⟩
    exact .directory distinct within

theorem Node.WellNamed.nodup {node : Node} (named : node.WellNamed) :
    (node.entries.map Prod.fst).Nodup := by
  cases named with
  | file _ => simp [entries]
  | directory distinct _ => exact distinct

theorem Node.WellNamed.inner {node : Node} (named : node.WellNamed) {entry : String × Node}
    (present : entry ∈ node.entries) : entry.2.WellNamed := by
  cases named with
  | file _ => contradiction
  | directory _ within => exact within entry present

theorem Node.WellNamed.eq_of_mem {node : Node} (named : node.WellNamed) {name : String}
    {inner other : Node} (present : (name, inner) ∈ node.entries)
    (otherPresent : (name, other) ∈ node.entries) : inner = other :=
  congrArg Prod.snd (List.inj_on_of_nodup_map named.nodup present otherPresent rfl)

theorem ascending_mergeSort {entries : List (String × Node)}
    (distinct : (entries.map Prod.fst).Nodup) :
    (entries.mergeSort fun one other => one.1 ≤ other.1).Pairwise
      fun one other => one.1 < other.1 := by
  have sorted : (entries.mergeSort fun one other => one.1 ≤ other.1).Pairwise
      fun one other => decide (one.1 ≤ other.1) = true :=
    List.pairwise_mergeSort (fun _ _ _ => by simpa using Std.le_trans)
      (fun one other => by simpa using Std.le_total (a := one.1) (b := other.1)) entries
  have different : ((entries.mergeSort fun one other => one.1 ≤ other.1).map Prod.fst).Nodup :=
    ((List.mergeSort_perm entries _).map Prod.fst).nodup_iff.mpr distinct
  exact List.pairwise_and_iff.mpr ⟨sorted, List.pairwise_map.mp different⟩ |>.imp
    fun ⟨notAbove, apart⟩ => Std.lt_of_le_of_ne (of_decide_eq_true notAbove) apart

theorem Node.ascending_visibleEntries {node : Node} (named : node.WellNamed) :
    node.visibleEntries.Pairwise fun one other => one.1 < other.1 :=
  ascending_mergeSort (named.nodup.sublist (List.filter_sublist.map Prod.fst))

theorem Node.lists_visibleEntries {node : Node} (named : node.WellNamed) (directories : Bool) :
    node.Lists directories ((node.visibleEntries.filter
      fun entry => entry.2.isDirectory == directories).map Prod.fst) where
  ascending := List.pairwise_map.mpr ((ascending_visibleEntries named).filter _)
  mem_iff name := by simp [mem_visibleEntries_iff, and_assoc]

theorem Speaker.map_name_ofEntry? (entries : List (String × Node)) :
    (entries.filterMap ofEntry?).map (·.name) =
      (entries.filter fun entry => entry.2.isDirectory == true).map Prod.fst := by
  induction entries with
  | nil => rfl
  | cons entry rest ih =>
      by_cases directory : entry.2.isDirectory = true
      · simp [Speaker.ofEntry?, directory, ih]
      · simpa [Speaker.ofEntry?, directory] using ih

theorem Variant.depicts_ofEntry? (speaker : String) (entries : List (String × Node)) :
    List.Forall₂ (Variant.Depicts speaker)
      ((entries.filter fun entry => entry.2.isDirectory == false).map Prod.fst)
      (entries.filterMap (Variant.ofEntry? speaker)) := by
  induction entries with
  | nil => exact .nil
  | cons entry rest ih =>
      by_cases directory : entry.2.isDirectory = true
      · simpa [Variant.ofEntry?, directory] using ih
      · have first : Variant.Depicts speaker entry.1
            ⟨Text.fileStem entry.1, forwardSlashes (speaker ++ "/" ++ entry.1)⟩ :=
          ⟨Text.isStem_iff.mpr rfl, rfl⟩
        simpa [Variant.ofEntry?, directory] using List.Forall₂.cons first ih

theorem Cast.ofDirectory_depicts {node : Node} (named : node.WellNamed) :
    (ofDirectory node).Depicts node where
  names := by
    rw [ofDirectory, Speaker.map_name_ofEntry?]
    exact Node.lists_visibleEntries named true
  speakers := by
    intro speaker listed inner present
    obtain ⟨⟨name, found⟩, shown, made⟩ := List.mem_filterMap.mp listed
    obtain ⟨_, same, portrait, looks⟩ := (Speaker.ofEntry?_eq_some_iff _ speaker).mp made
    have alsoPresent := (Node.mem_visibleEntries_iff.mp shown).2
    simp only at same
    rw [same] at present
    obtain rfl : inner = found := named.eq_of_mem present alsoPresent
    refine ⟨⟨_, Node.lists_visibleEntries (named.inner present) false, ?_⟩, by simp [portrait]⟩
    rw [looks, same]
    exact Variant.depicts_ofEntry? name _

end Playscript
