import Playscript.Proofs.Text.Split

/-!
The stretches of a text between breaks. They are the pieces of the text that are not empty, in the
order in which they stand, and it does not matter by how many breaks they are kept apart.
-/

namespace Playscript.Text

def stretches (isBreak : Char → Bool) (text : List Char) : List (List Char) :=
  (pieces isBreak text).filter fun piece => !piece.isEmpty

/-- A stretch of a text at this place: not empty, no break in it, and one on either side of it. -/
structure Stretch (isBreak : Char → Bool) (text : List Char) (start : Nat) (stretch : List Char) :
    Prop where
  nonempty : stretch ≠ []
  free : ∀ c ∈ stretch, isBreak c = false
  place : ∃ before after, text = before ++ (stretch ++ after) ∧ before.length = start ∧
    (∀ c, before.getLast? = some c → isBreak c = true) ∧
    (∀ c, after.head? = some c → isBreak c = true)

/-- Pieces that are not empty, each with its place. -/
def placePieces (start : Nat) : List (List Char) → List (Nat × List Char)
  | [] => []
  | piece :: rest =>
    let later := placePieces (start + piece.length + 1) rest
    if piece.isEmpty then later else (start, piece) :: later

variable {isBreak : Char → Bool} {before gap after text first rest stretch : List Char} {c : Char}
  {start : Nat}

theorem stretches_append_break (breaks : isBreak c = true) (before after : List Char) :
    stretches isBreak (before ++ c :: after) =
      stretches isBreak before ++ stretches isBreak after := by
  simp only [stretches, pieces_eq_splitOnP]
  rw [List.splitOnP_append_cons before after breaks, List.filter_append]

theorem stretches_breaks_append (breaks : ∀ c ∈ gap, isBreak c = true) (after : List Char) :
    stretches isBreak (gap ++ after) = stretches isBreak after := by
  induction gap with
  | nil => rfl
  | cons c gap ih =>
      obtain ⟨first, rest⟩ := List.forall_mem_cons.mp breaks
      exact (stretches_append_break first [] (gap ++ after)).trans (ih rest)

theorem stretches_around (breaks : ∀ c ∈ gap, isBreak c = true)
    (apart : gap ≠ [] ∨ before = [] ∨ after = []) :
    stretches isBreak (before ++ gap ++ after) =
      stretches isBreak before ++ stretches isBreak after := by
  cases gap with
  | nil =>
      rcases apart with some | rfl | rfl
      · contradiction
      · rfl
      · simp [stretches, pieces]
  | cons c gap =>
      obtain ⟨first, rest⟩ := List.forall_mem_cons.mp breaks
      rw [List.append_assoc, List.cons_append, stretches_append_break first,
        stretches_breaks_append rest]

theorem pieces_of_free (free : ∀ c ∈ text, isBreak c = false) : pieces isBreak text = [text] := by
  rw [pieces_eq_splitOnP]
  exact List.splitOnP_eq_singleton free

theorem pieces_append_break (free : ∀ c ∈ first, isBreak c = false) (breaks : isBreak c = true)
    (rest : List Char) : pieces isBreak (first ++ c :: rest) = first :: pieces isBreak rest := by
  simp only [pieces_eq_splitOnP]
  exact List.splitOnP_append_cons_of_forall_mem free c breaks rest

theorem stretches_of_free (free : ∀ c ∈ text, isBreak c = false) (nonempty : text ≠ []) :
    stretches isBreak text = [text] := by
  simp [stretches, pieces_of_free free, nonempty]

theorem free_or_cut (isBreak : Char → Bool) (text : List Char) :
    (∀ c ∈ text, isBreak c = false) ∨ ∃ first c rest, text = first ++ c :: rest ∧
      (∀ c ∈ first, isBreak c = false) ∧ isBreak c = true := by
  induction text with
  | nil => exact .inl (by simp)
  | cons c text ih =>
      cases breaks : isBreak c with
      | true => exact .inr ⟨[], c, text, rfl, by simp, breaks⟩
      | false =>
          rcases ih with free | ⟨first, d, rest, rfl, free, breaksLater⟩
          · exact .inl (List.forall_mem_cons.mpr ⟨breaks, free⟩)
          · exact .inr ⟨c :: first, d, rest, rfl, List.forall_mem_cons.mpr ⟨breaks, free⟩,
              breaksLater⟩

theorem eq_none_of_free {picked : Option Char} (listed : ∀ c, picked = some c → c ∈ text)
    (free : ∀ c ∈ text, isBreak c = false) (breaks : ∀ c, picked = some c → isBreak c = true) :
    picked = none := by
  rw [Option.eq_none_iff_forall_ne_some]
  intro c pick
  have kept := free c (listed c pick)
  rw [breaks c pick] at kept
  contradiction

theorem eq_nil_of_getLast (free : ∀ c ∈ text, isBreak c = false)
    (breaks : ∀ c, text.getLast? = some c → isBreak c = true) : text = [] :=
  List.getLast?_eq_none_iff.mp (eq_none_of_free (fun _ => List.mem_of_getLast?) free breaks)

theorem eq_nil_of_head (free : ∀ c ∈ text, isBreak c = false)
    (breaks : ∀ c, text.head? = some c → isBreak c = true) : text = [] :=
  List.head?_eq_none_iff.mp (eq_none_of_free (fun _ => List.mem_of_head?) free breaks)

theorem stretch_of_free_iff (free : ∀ c ∈ text, isBreak c = false) :
    Stretch isBreak text start stretch ↔ start = 0 ∧ stretch = text ∧ text ≠ [] := by
  constructor
  · rintro ⟨nonempty, _, before, after, rfl, rfl, left, right⟩
    obtain rfl := eq_nil_of_getLast (fun c listed => free c (by simp [listed])) left
    obtain rfl := eq_nil_of_head (fun c listed => free c (by simp [listed])) right
    simpa using nonempty
  · rintro ⟨rfl, rfl, nonempty⟩
    exact ⟨nonempty, free, [], [], by simp, rfl, by simp, by simp⟩

theorem eq_of_append_break (free : ∀ c ∈ first, isBreak c = false) (breaks : isBreak c = true)
    (whole : ∀ c ∈ stretch, isBreak c = false)
    (right : ∀ c, after.head? = some c → isBreak c = true)
    (same : stretch ++ after = first ++ c :: rest) : stretch = first := by
  rcases List.append_eq_append_iff.mp same with ⟨more, rfl, tail⟩ | ⟨more, rfl, tail⟩
  · obtain rfl : more = [] := by
      refine eq_nil_of_head (fun c listed => free c (by simp [listed])) fun d first => right d ?_
      rw [tail, List.head?_append, first, Option.some_or]
    exact (List.append_nil _).symm
  · cases more with
    | nil => exact List.append_nil _
    | cons d more =>
        obtain ⟨rfl, _⟩ := List.cons.inj tail
        rw [whole c (by simp)] at breaks
        contradiction

theorem stretch_append_break_iff (free : ∀ c ∈ first, isBreak c = false)
    (breaks : isBreak c = true) : Stretch isBreak (first ++ c :: rest) start stretch ↔
      (start = 0 ∧ stretch = first ∧ first ≠ []) ∨
        ∃ offset, start = first.length + 1 + offset ∧ Stretch isBreak rest offset stretch := by
  constructor
  · rintro ⟨nonempty, whole, before, after, text, rfl, left, right⟩
    rcases List.append_eq_append_iff.mp text with ⟨between, rfl, tail⟩ | ⟨between, rfl, tail⟩
    · cases between with
      | nil =>
          -- The stretch would begin with the break.
          obtain ⟨d, more, rfl⟩ := List.exists_cons_of_ne_nil nonempty
          obtain ⟨rfl, _⟩ := List.cons.inj tail
          rw [whole c (by simp)] at breaks
          contradiction
      | cons d between =>
          obtain ⟨rfl, rfl⟩ := List.cons.inj tail
          refine .inr ⟨between.length, by simp; omega, nonempty, whole, between, after, rfl, rfl,
            fun d last => left d ?_, right⟩
          simp [List.getLast?_append, List.getLast?_cons, last]
    · obtain rfl := eq_nil_of_getLast (fun c listed => free c (by simp [listed])) left
      obtain rfl : stretch = between := eq_of_append_break free breaks whole right tail
      exact .inl ⟨rfl, rfl, nonempty⟩
  · rintro (⟨rfl, rfl, nonempty⟩ | ⟨offset, rfl, nonempty, whole, before, after, rfl, rfl, left,
      right⟩)
    · exact ⟨nonempty, free, [], c :: rest, by simp, rfl, by simp, by simpa using breaks⟩
    · refine ⟨nonempty, whole, first ++ c :: before, after, by simp, by simp; omega,
        fun d last => ?_, right⟩
      rw [List.getLast?_append, List.getLast?_cons, Option.some_or, Option.some_inj] at last
      cases final : before.getLast? with
      | none => rwa [← last, final]
      | some e =>
          rw [final, Option.getD_some] at last
          exact left d (last ▸ final)

theorem mem_placePieces_cons_iff (origin start : Nat) (stretch piece : List Char)
    (rest : List (List Char)) : (start, stretch) ∈ placePieces origin (piece :: rest) ↔
      (start = origin ∧ stretch = piece ∧ piece ≠ []) ∨
        (start, stretch) ∈ placePieces (origin + piece.length + 1) rest := by
  by_cases empty : piece = []
  · simp [placePieces, empty]
  · simp [placePieces, empty]

theorem mem_placePieces_iff (isBreak : Char → Bool) (text : List Char) (origin start : Nat)
    (stretch : List Char) : (start, stretch) ∈ placePieces origin (pieces isBreak text) ↔
      ∃ offset, start = origin + offset ∧ Stretch isBreak text offset stretch := by
  induction size : text.length using Nat.strongRecOn generalizing text origin with
  | ind length ih =>
      rcases free_or_cut isBreak text with free | ⟨first, c, rest, rfl, free, breaks⟩
      · simp only [pieces_of_free free, mem_placePieces_cons_iff, stretch_of_free_iff free]
        simp [placePieces]
      · have shorter : rest.length < length := by
          rw [← size, List.length_append, List.length_cons]
          omega
        rw [pieces_append_break free breaks, mem_placePieces_cons_iff, ih _ shorter rest _ rfl]
        constructor
        · rintro (⟨rfl, rfl, nonempty⟩ | ⟨offset, rfl, found⟩)
          · exact ⟨0, rfl, (stretch_append_break_iff free breaks).mpr (.inl ⟨rfl, rfl, nonempty⟩)⟩
          · exact ⟨first.length + 1 + offset, by omega,
              (stretch_append_break_iff free breaks).mpr (.inr ⟨offset, rfl, found⟩)⟩
        · rintro ⟨offset, rfl, found⟩
          rcases (stretch_append_break_iff free breaks).mp found with
            ⟨rfl, rfl, nonempty⟩ | ⟨further, rfl, later⟩
          · exact .inl ⟨rfl, rfl, nonempty⟩
          · exact .inr ⟨further, by omega, later⟩

theorem map_snd_placePieces (start : Nat) (all : List (List Char)) :
    (placePieces start all).map Prod.snd = all.filter fun piece => !piece.isEmpty := by
  induction all generalizing start with
  | nil => rfl
  | cons piece rest ih =>
      rw [placePieces]
      by_cases empty : piece.isEmpty = true
      · simp [empty, ih]
      · simp [empty, ih]

theorem le_of_mem_placePieces {origin : Nat} {all : List (List Char)}
    (listed : (start, stretch) ∈ placePieces origin all) : origin ≤ start := by
  induction all generalizing origin with
  | nil => contradiction
  | cons piece rest ih =>
      rcases (mem_placePieces_cons_iff ..).mp listed with ⟨rfl, _⟩ | later
      · exact Nat.le_refl start
      · have after := ih later
        omega

theorem placePieces_ordered (origin : Nat) (all : List (List Char)) :
    (placePieces origin all).Pairwise fun one other => one.1 < other.1 := by
  induction all generalizing origin with
  | nil => exact List.Pairwise.nil
  | cons piece rest ih =>
      rw [placePieces]
      split
      · exact ih _
      · refine List.pairwise_cons.mpr ⟨?_, ih _⟩
        rintro ⟨later, other⟩ listed
        have after := le_of_mem_placePieces listed
        simp only
        omega

/-- The pieces of a text that are not empty are its stretches, all of them and in their order. -/
theorem exists_placed_stretches (isBreak : Char → Bool) (text : List Char) :
    ∃ placed : List (Nat × List Char), placed.map Prod.snd = stretches isBreak text ∧
      placed.Pairwise (fun one other => one.1 < other.1) ∧
      ∀ start stretch, (start, stretch) ∈ placed ↔ Stretch isBreak text start stretch := by
  refine ⟨placePieces 0 (pieces isBreak text), map_snd_placePieces 0 _, placePieces_ordered 0 _, ?_⟩
  intro start stretch
  rw [mem_placePieces_iff]
  simp

end Playscript.Text
