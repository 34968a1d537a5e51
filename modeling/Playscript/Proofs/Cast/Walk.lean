import Mathlib.Data.List.Induction
import Playscript.Proofs.Cast.Depiction

/-!
The scan of a directory as one walk through it, which adds each file it comes by to a speaker found
before. Whatever the order in which it goes from one directory to another, it finds the same cast.
-/

namespace Playscript

/-- An entry that a walk comes by, and the directory it is in unless that is the one walked. -/
structure Visit where
  above : Option String
  name : String
  isDirectory : Bool
  deriving DecidableEq

inductive Node.Holds (node : Node) : Visit → Prop
  | atTop {name : String} {inner : Node} : (name, inner) ∈ node.entries →
      Holds node ⟨none, name, inner.isDirectory⟩
  | within {owner name : String} {room inner : Node} : (owner, room) ∈ node.entries →
      (name, inner) ∈ room.entries → Holds node ⟨some owner, name, inner.isDirectory⟩

def ParentsFirst (visits : List Visit) : Prop :=
  ∀ before visit after owner, visits = before ++ visit :: after → visit.above = some owner →
    ⟨none, owner, true⟩ ∈ before

/-- A walk through a node: neighbours come in ascending order, and each once. -/
structure Node.Walked (node : Node) (visits : List Visit) : Prop where
  mem_iff (visit : Visit) : visit ∈ visits ↔ node.Holds visit
  parentsFirst : ParentsFirst visits
  ascending : visits.Pairwise fun visit later => visit.above = later.above → visit.name < later.name

abbrev Found := Std.TreeMap String Speaker

def Variant.ofFile (speaker fileName : String) : Variant :=
  ⟨Text.fileStem fileName, forwardSlashes (speaker ++ "/" ++ fileName)⟩

namespace Found

/-- A look added to those of a speaker; where there is no speaker, as in a hidden directory, it is
passed over. -/
def addLook (found : Found) (owner fileName : String) : Found :=
  match found[owner]? with
  | none => found
  | some speaker =>
    let variants := speaker.variants ++ [Variant.ofFile owner fileName]
    (found.erase owner).insert owner { speaker with variants }

def visit (found : Found) (visit : Visit) : Found :=
  if isHidden visit.name then found
  else
    match visit.above with
    | none => if visit.isDirectory then found.insert visit.name { name := visit.name } else found
    | some owner => if visit.isDirectory then found else found.addLook owner visit.name

end Found

def Speaker.settled (speaker : Speaker) : Speaker :=
  if speaker.variants.isEmpty then { speaker with hasPortrait := false } else speaker

def Cast.ofWalk (visits : List Visit) : Cast :=
  ⟨(visits.foldl Found.visit ∅).toList.map fun entry => entry.2.settled⟩

def Visit.isLookOf (visit : Visit) (owner : String) : Bool :=
  visit.above == some owner && !visit.isDirectory && !isHidden visit.name

def looksIn (visits : List Visit) (owner : String) : List String :=
  (visits.filter fun visit => visit.isLookOf owner).map (·.name)

namespace Found

theorem getElem?_addLook (found : Found) (owner fileName name : String) :
    (found.addLook owner fileName)[name]? =
      if owner = name then
        found[name]?.map fun speaker =>
          { speaker with variants := speaker.variants ++ [Variant.ofFile name fileName] }
      else found[name]? := by
  unfold addLook
  by_cases same : owner = name
  · subst same
    cases known : found[owner]? with
    | none => simp [known]
    | some speaker => simp
  · cases known : found[owner]? with
    | none => simp [same]
    | some speaker => simp [Std.TreeMap.getElem?_insert, Std.TreeMap.getElem?_erase, same]

theorem getElem?_visit (found : Found) (visit : Visit) (name : String) :
    (found.visit visit)[name]? =
      if visit = ⟨none, name, true⟩ ∧ isHidden name = false then some { name }
      else if visit.isLookOf name then
        found[name]?.map fun speaker =>
          { speaker with variants := speaker.variants ++ [Variant.ofFile name visit.name] }
      else found[name]? := by
  obtain ⟨above, called, directory⟩ := visit
  by_cases hidden : isHidden called = true
  · by_cases same : called = name
    · simp_all [Found.visit, Visit.isLookOf]
    · simp [Found.visit, Visit.isLookOf, hidden, same]
  · cases above with
    | none =>
        cases directory with
        | true =>
            by_cases same : called = name
            · simp_all [Found.visit]
            · simp [Found.visit, hidden, same, Visit.isLookOf, Std.TreeMap.getElem?_insert]
        | false => simp [Found.visit, hidden, Visit.isLookOf]
    | some owner =>
        cases directory with
        | true => simp [Found.visit, hidden, Visit.isLookOf]
        | false => simp [Found.visit, hidden, Visit.isLookOf, getElem?_addLook]

end Found

section Walked

variable {node : Node} {visits before after : List Visit} {visit : Visit} {name owner : String}
  {directory : Bool}

theorem Node.holds_atTop_iff : node.Holds ⟨none, name, directory⟩ ↔
    ∃ inner, (name, inner) ∈ node.entries ∧ inner.isDirectory = directory := by
  constructor
  · rintro ⟨present⟩
    exact ⟨_, present, rfl⟩
  · rintro ⟨inner, present, rfl⟩
    exact .atTop present

theorem Node.holds_within_iff : node.Holds ⟨some owner, name, directory⟩ ↔
    ∃ room, (owner, room) ∈ node.entries ∧
      ∃ inner, (name, inner) ∈ room.entries ∧ inner.isDirectory = directory := by
  constructor
  · rintro (_ | ⟨outside, inside⟩)
    exact ⟨_, outside, _, inside, rfl⟩
  · rintro ⟨room, outside, inner, inside, rfl⟩
    exact .within outside inside

theorem Visit.isLookOf_iff : visit.isLookOf owner = true ↔
    visit = ⟨some owner, visit.name, false⟩ ∧ isHidden visit.name = false := by
  obtain ⟨above, called, directory⟩ := visit
  simp [isLookOf, and_assoc]

theorem looksIn_append (before after : List Visit) (owner : String) :
    looksIn (before ++ after) owner = looksIn before owner ++ looksIn after owner := by
  simp [looksIn]

theorem Node.Walked.looksIn_of_unopened (walked : node.Walked visits)
    (split : visits = before ++ ⟨none, name, true⟩ :: after) : looksIn before name = [] := by
  rw [looksIn, List.map_eq_nil_iff, List.filter_eq_nil_iff]
  intro look listed shown
  obtain ⟨earlier, later, rfl⟩ := List.append_of_mem listed
  have inRoom : look.above = some name := by
    rw [(Visit.isLookOf_iff.mp shown).1]
  have opened : ⟨none, name, true⟩ ∈ earlier :=
    walked.parentsFirst earlier look _ name (by simpa using split) inRoom
  have ascending := walked.ascending
  rw [split, List.pairwise_append] at ascending
  have twice := ascending.2.2 ⟨none, name, true⟩ (by simp [opened]) ⟨none, name, true⟩ (by simp) rfl
  exact Std.lt_irrefl twice

/-- The run lemma: after the first part of a walk, the speakers it came by have the looks that it
came by. -/
theorem Node.Walked.getElem?_foldl (walked : node.Walked visits) (name : String) :
    ∀ after, visits = before ++ after → (before.foldl Found.visit ∅)[name]? =
      if ⟨none, name, true⟩ ∈ before ∧ isHidden name = false then
        some ⟨name, true, (looksIn before name).map (Variant.ofFile name)⟩
      else none := by
  -- on the part that is done; a speaker is there before its first look because the walk opens a
  -- directory before it looks into it
  induction before using List.reverseRecOn with
  | nil => simp
  | append_singleton before visit ih =>
      intro after split
      have split : visits = before ++ visit :: after := by simpa using split
      rw [List.foldl_append, List.foldl_cons, List.foldl_nil, Found.getElem?_visit, ih _ split]
      by_cases opens : visit = ⟨none, name, true⟩
      · subst opens
        have noLooks := walked.looksIn_of_unopened split
        have noLook : Visit.isLookOf ⟨none, name, true⟩ name = false := by simp [Visit.isLookOf]
        have noneMore : looksIn [⟨none, name, true⟩] name = [] := by simp [looksIn, noLook]
        by_cases visible : isHidden name = false
        · simp [visible, looksIn_append, noLooks, noneMore]
        · simp [visible, noLook]
      · by_cases look : visit.isLookOf name = true
        · obtain ⟨place, _⟩ := Visit.isLookOf_iff.mp look
          have opened : ⟨none, name, true⟩ ∈ before :=
            walked.parentsFirst before visit after name split (by rw [place])
          by_cases visible : isHidden name = false
          · have oneMore : looksIn [visit] name = [visit.name] := by simp [looksIn, look]
            simp [opens, look, opened, visible, looksIn_append, oneMore]
          · simp [look, visible]
        · have noneMore : looksIn [visit] name = [] := by simp [looksIn, look]
          simp [opens, look, Ne.symm opens, looksIn_append, noneMore]

theorem Node.Walked.lists_looksIn (walked : node.Walked visits) (named : node.WellNamed)
    {room : Node} (present : (owner, room) ∈ node.entries) :
    room.Lists false (looksIn visits owner) where
  ascending := by
    have looks := walked.ascending.filter fun visit => visit.isLookOf owner
    refine List.pairwise_map.mpr (looks.imp_of_mem ?_)
    intro look later listed laterListed below
    have inRoom := (Visit.isLookOf_iff.mp (List.mem_filter.mp listed).2).1
    have laterInRoom := (Visit.isLookOf_iff.mp (List.mem_filter.mp laterListed).2).1
    exact below (by rw [inRoom, laterInRoom])
  mem_iff name := by
    have cameBy : name ∈ looksIn visits owner ↔
        isHidden name = false ∧ ⟨some owner, name, false⟩ ∈ visits := by
      simp only [looksIn, List.mem_map, List.mem_filter, Visit.isLookOf_iff]
      constructor
      · rintro ⟨visit, ⟨listed, place, visible⟩, rfl⟩
        exact ⟨visible, place ▸ listed⟩
      · rintro ⟨visible, listed⟩
        exact ⟨_, ⟨listed, rfl, visible⟩, rfl⟩
    rw [cameBy, walked.mem_iff, Node.holds_within_iff]
    refine and_congr_right fun _ => ⟨?_, fun inside => ⟨room, present, inside⟩⟩
    rintro ⟨other, otherPresent, inside⟩
    rwa [named.eq_of_mem present otherPresent]

theorem Speaker.settled_name (speaker : Speaker) : speaker.settled.name = speaker.name := by
  unfold settled
  split <;> rfl

theorem Speaker.settled_variants (speaker : Speaker) :
    speaker.settled.variants = speaker.variants := by
  unfold settled
  split <;> rfl

theorem Speaker.settled_hasPortrait_iff {speaker : Speaker} (shown : speaker.hasPortrait = true) :
    speaker.settled.hasPortrait = false ↔ speaker.variants = [] := by
  unfold settled
  split <;> simp_all

theorem Node.Walked.found_iff (walked : node.Walked visits) (name : String) (speaker : Speaker) :
    (name, speaker) ∈ (visits.foldl Found.visit ∅).toList ↔
      (⟨none, name, true⟩ ∈ visits ∧ isHidden name = false) ∧
        speaker = ⟨name, true, (looksIn visits name).map (Variant.ofFile name)⟩ := by
  rw [Std.TreeMap.mem_toList_iff_getElem?_eq_some, walked.getElem?_foldl name [] (by simp)]
  by_cases found : ⟨none, name, true⟩ ∈ visits ∧ isHidden name = false
  · simp [found, eq_comm]
  · simp [found]

theorem Node.Walked.map_name_ofWalk (walked : node.Walked visits) :
    (Cast.ofWalk visits).speakers.map (·.name) =
      (visits.foldl Found.visit ∅).toList.map Prod.fst := by
  rw [Cast.ofWalk, List.map_map]
  refine List.map_congr_left fun entry listed => ?_
  obtain ⟨_, same⟩ := (walked.found_iff entry.1 entry.2).mp listed
  simp [Speaker.settled_name, same]

theorem Node.Walked.lists_ofWalk (walked : node.Walked visits) :
    node.Lists true ((Cast.ofWalk visits).speakers.map (·.name)) where
  ascending := by
    rw [walked.map_name_ofWalk, List.pairwise_map]
    refine Std.TreeMap.ordered_keys_toList.imp ?_
    intro one other below
    exact compareOfLessAndEq_eq_lt.mp below
  mem_iff name := by
    have listed : name ∈ (visits.foldl Found.visit ∅).toList.map Prod.fst ↔
        ⟨none, name, true⟩ ∈ visits ∧ isHidden name = false := by
      simp only [List.mem_map, Prod.exists, exists_and_right, exists_eq_right]
      simp [walked.found_iff]
    rw [walked.map_name_ofWalk, listed, walked.mem_iff, Node.holds_atTop_iff, and_comm]

theorem Cast.ofWalk_depicts (walked : node.Walked visits) (named : node.WellNamed) :
    (ofWalk visits).Depicts node where
  names := walked.lists_ofWalk
  speakers := by
    intro speaker listed inner present
    obtain ⟨⟨name, raw⟩, found, rfl⟩ := List.mem_map.mp listed
    obtain ⟨_, rfl⟩ := (walked.found_iff name raw).mp found
    rw [Speaker.settled_name] at present
    refine ⟨⟨_, walked.lists_looksIn named present, ?_⟩, ?_⟩
    · rw [Speaker.settled_name, Speaker.settled_variants, List.forall₂_map_right_iff]
      exact List.forall₂_same.mpr fun fileName _ => ⟨Text.isStem_iff.mpr rfl, rfl⟩
    · rw [Speaker.settled_hasPortrait_iff rfl, Speaker.settled_variants]

end Walked

def Node.sortedEntries (node : Node) : List (String × Node) :=
  node.entries.mergeSort fun one other => one.1 ≤ other.1

def Visit.ofEntry (above : Option String) (entry : String × Node) : Visit :=
  ⟨above, entry.1, entry.2.isDirectory⟩

def Visit.through (entry : String × Node) : List Visit :=
  ofEntry none entry :: entry.2.sortedEntries.map (ofEntry (some entry.1))

def Node.walk (node : Node) : List Visit := node.sortedEntries.flatMap Visit.through

section DepthFirst

variable {node : Node} {visits more : List Visit}

theorem ParentsFirst.append (first : ParentsFirst visits) (second : ParentsFirst more) :
    ParentsFirst (visits ++ more) := by
  intro before visit after owner split inRoom
  rcases List.append_eq_append_iff.mp split with ⟨between, rfl, rest⟩ | ⟨between, rfl, rest⟩
  · exact List.mem_append_right _ (second between visit after owner rest inRoom)
  · cases between with
    | nil =>
        have opened := second [] visit after owner (by simpa using rest.symm) inRoom
        contradiction
    | cons next between =>
        obtain ⟨rfl, rfl⟩ := List.cons.inj rest
        exact first before visit between owner rfl inRoom

theorem parentsFirst_through (entry : String × Node) : ParentsFirst (Visit.through entry) := by
  intro before visit after owner split inRoom
  cases before with
  | nil =>
      obtain ⟨rfl, _⟩ := List.cons.inj split
      contradiction
  | cons opening before =>
      obtain ⟨rfl, rest⟩ := List.cons.inj split
      have listed : visit ∈ entry.2.sortedEntries.map (Visit.ofEntry (some entry.1)) := by
        simp [rest]
      obtain ⟨within, present, rfl⟩ := List.mem_map.mp listed
      have inside : entry.2.isDirectory = true := by
        cases room : entry.2 with
        | file _ => simp [room, Node.sortedEntries, Node.entries] at present
        | directory _ => rfl
      obtain rfl : entry.1 = owner := Option.some.inj inRoom
      exact List.mem_cons.mpr (.inl (by rw [Visit.ofEntry, inside]))

theorem parentsFirst_flatMap (entries : List (String × Node)) :
    ParentsFirst (entries.flatMap Visit.through) := by
  induction entries with
  | nil =>
      intro before visit after owner split
      simp at split
  | cons entry rest ih =>
      rw [List.flatMap_cons]
      exact (parentsFirst_through entry).append ih

theorem Node.mem_walk_iff (visit : Visit) : visit ∈ node.walk ↔ node.Holds visit := by
  simp only [walk, Visit.through, sortedEntries, List.mem_flatMap, List.mem_mergeSort,
    List.mem_cons, List.mem_map]
  constructor
  · rintro ⟨entry, outside, rfl | ⟨within, inside, rfl⟩⟩
    · exact .atTop outside
    · exact .within outside inside
  · intro held
    cases held with
    | atTop outside => exact ⟨_, outside, .inl rfl⟩
    | within outside inside => exact ⟨_, outside, .inr ⟨_, inside, rfl⟩⟩

theorem Node.ascending_walk (named : node.WellNamed) : node.walk.Pairwise
    fun visit later => visit.above = later.above → visit.name < later.name := by
  rw [walk, List.pairwise_flatMap]
  constructor
  · intro entry present
    have inner : entry.2.WellNamed := named.inner (List.mem_mergeSort.mp present)
    refine List.pairwise_cons.mpr ⟨?_, List.pairwise_map.mpr ?_⟩
    · intro visit listed same
      obtain ⟨within, _, rfl⟩ := List.mem_map.mp listed
      contradiction
    · refine (ascending_mergeSort inner.nodup).imp ?_
      exact fun below _ => below
  · refine (ascending_mergeSort named.nodup).imp ?_
    intro entry later below visit listed laterVisit laterListed same
    rcases List.mem_cons.mp listed with rfl | listed
    · rcases List.mem_cons.mp laterListed with rfl | laterListed
      · exact below
      · obtain ⟨_, _, rfl⟩ := List.mem_map.mp laterListed
        contradiction
    · obtain ⟨_, _, rfl⟩ := List.mem_map.mp listed
      rcases List.mem_cons.mp laterListed with rfl | laterListed
      · contradiction
      · obtain ⟨_, _, rfl⟩ := List.mem_map.mp laterListed
        exact absurd (Option.some.inj same) (Std.ne_of_lt below)

theorem Node.walked_walk (named : node.WellNamed) : node.Walked node.walk :=
  ⟨mem_walk_iff, parentsFirst_flatMap _, ascending_walk named⟩

end DepthFirst

/-- A scan of a directory finds the one cast it stands for, and so does every walk through it. -/
theorem Disk.loadCastDirectory_depicts (disk : Disk) {path : String} {node : Node}
    (found : disk.find path = .ok node) (named : node.WellNamed) :
    ∃ cast, disk.loadCastDirectory path = .ok cast ∧ cast.Depicts node ∧
      (∀ other : Cast, other.Depicts node → other = cast) ∧
      node.Walked node.walk ∧ ∀ visits, node.Walked visits → Cast.ofWalk visits = cast := by
  have shown : (Cast.ofDirectory node).Depicts node := Cast.ofDirectory_depicts named
  refine ⟨Cast.ofDirectory node, ?_, shown, fun _ other => other.unique shown,
    Node.walked_walk named, ?_⟩
  · exact (disk.loadCastDirectory_eq_ok_iff path _).mpr ⟨node, found, rfl⟩
  · exact fun visits walked => (Cast.ofWalk_depicts walked named).unique shown

def dressingRoom : Node := .directory [
  ("Mei", .directory [("sad.png", .file []), (".old", .file []), ("joy\\wide.v2.png", .file []),
    ("drafts", .directory [("shy.png", .file [])])]),
  (".git", .directory [("HEAD", .file [])]), ("notes.txt", .file []),
  ("Aoi", .directory [(".DS_Store", .file [])])]

def dressingRoomCast : Cast :=
  ⟨[⟨"Aoi", false, []⟩,
    ⟨"Mei", true, [⟨"joy\\wide.v2", "Mei/joy/wide.v2.png"⟩, ⟨"sad", "Mei/sad.png"⟩]⟩]⟩

theorem loadCastDirectory_atDressingRoom :
    let disk : Disk := { root := .directory [("cast", dressingRoom)], workingDirectory := "/" }
    disk.find "/cast" = .ok dressingRoom ∧ dressingRoom.WellNamed ∧
    disk.loadCastDirectory "/cast" = .ok dressingRoomCast ∧
    dressingRoomCast.Depicts dressingRoom ∧
    (∀ other : Cast, other.Depicts dressingRoom → other = dressingRoomCast) ∧
    dressingRoom.Walked dressingRoom.walk ∧
    Cast.ofWalk dressingRoom.walk = dressingRoomCast := by
  intro disk
  have found : disk.find "/cast" = .ok dressingRoom := rfl
  have named : dressingRoom.WellNamed := by
    simp [dressingRoom, Node.wellNamed_directory_iff, Node.WellNamed.file]
  have rooms : dressingRoom.visibleEntries = [
      ("Aoi", .directory [(".DS_Store", .file [])]),
      ("Mei", .directory [("sad.png", .file []), (".old", .file []), ("joy\\wide.v2.png", .file []),
        ("drafts", .directory [("shy.png", .file [])])]), ("notes.txt", .file [])] := by
    simp [dressingRoom, Node.visibleEntries, Node.entries, isHidden, List.mergeSort,
      List.MergeSort.Internal.splitInTwo]
  have ofMei : (Node.directory [("sad.png", .file []), (".old", .file []),
      ("joy\\wide.v2.png", .file []),
      ("drafts", .directory [("shy.png", .file [])])]).visibleEntries =
      [("drafts", .directory [("shy.png", .file [])]), ("joy\\wide.v2.png", .file []),
        ("sad.png", .file [])] := by
    simp [Node.visibleEntries, Node.entries, isHidden, List.mergeSort,
      List.MergeSort.Internal.splitInTwo]
  have ofAoi : (Node.directory [(".DS_Store", .file [])]).visibleEntries = [] := by
    simp [Node.visibleEntries, Node.entries, isHidden]
  have listed : Cast.ofDirectory dressingRoom = dressingRoomCast := by
    simp only [Cast.ofDirectory, rooms, List.filterMap_cons, Speaker.ofEntry?, Node.isDirectory,
      if_true, ofMei, ofAoi, Variant.ofEntry?]
    decide +kernel
  have scanned : disk.loadCastDirectory "/cast" = .ok dressingRoomCast :=
    (disk.loadCastDirectory_eq_ok_iff _ _).mpr ⟨dressingRoom, found, listed⟩
  obtain ⟨cast, loaded, shown, only, walked, fromWalk⟩ := disk.loadCastDirectory_depicts found named
  obtain rfl : dressingRoomCast = cast := Except.ok.inj (scanned.symm.trans loaded)
  exact ⟨found, named, scanned, shown, only, walked, fromWalk _ walked⟩

end Playscript
