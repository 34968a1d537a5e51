import Mathlib.Data.List.Basic
import Playscript.Config.Tags
import Playscript.Proofs.Text.Strip

/-!
Upper case leaves its own output alone and makes no blanks, so a normalized tag is its own normal
form. Both facts are read off the mapping tables, run by run instead of character by character.
-/

namespace Playscript.Text

namespace CaseRun

def lastImage (run : CaseRun) : Nat := run.target + (run.last - run.first)

/-- No image of a run lies in another: they are apart, or they interleave with the other parity. -/
def misses (run other : CaseRun) : Bool :=
  Nat.blt other.last run.target || Nat.blt run.lastImage other.first ||
    (Nat.beq other.step 2 && Nat.beq ((run.target + other.first) % 2) 1 &&
      (Nat.beq run.step 2 || Nat.beq run.first run.last))

def avoids (run : CaseRun) (code : Nat) : Bool :=
  Nat.blt code run.target || Nat.blt run.lastImage code

def fixed (code : Nat) : CaseRun := ⟨code, code, 1, code⟩

theorem covers_iff (run : CaseRun) (code : Nat) :
    run.covers code = true ↔
      run.first ≤ code ∧ code ≤ run.last ∧ (code - run.first) % run.step = 0 := by
  simp [covers, and_assoc]

theorem image_bounds {run : CaseRun} {code : Nat} (covered : run.covers code = true) :
    run.target ≤ run.image code ∧ run.image code ≤ run.lastImage := by
  rw [covers_iff] at covered
  simp only [image, lastImage]
  omega

theorem not_covers_image {run other : CaseRun} {code : Nat} (apart : run.misses other = true)
    (covered : run.covers code = true) : other.covers (run.image code) = false := by
  have bounds := image_bounds covered
  rw [covers_iff] at covered
  rw [← Bool.not_eq_true, covers_iff]
  simp only [misses, Nat.blt_eq, Nat.beq_eq, Bool.or_eq_true, Bool.and_eq_true] at apart
  rintro ⟨lower, upper, onStep⟩
  simp only [image] at bounds lower upper onStep
  rcases apart with (below | above) | ⟨⟨two, odd⟩, even⟩
  · omega
  · omega
  · rw [two] at onStep
    rcases even with twoToo | single
    · rw [twoToo] at covered
      omega
    · omega

theorem image_ne {run : CaseRun} {code image : Nat} (apart : run.avoids image = true)
    (covered : run.covers code = true) : run.image code ≠ image := by
  have bounds := image_bounds covered
  simp only [avoids, Nat.blt_eq, Bool.or_eq_true] at apart
  omega

end CaseRun

/-- Every code that a mapping gives, as a run: those of the expansions one by one. -/
def imageRuns : List CaseRun :=
  caseRuns ++ caseExpansions.flatMap fun (_, codes) => codes.map CaseRun.fixed

theorem imageRuns_miss_caseRuns :
    imageRuns.all (fun run => caseRuns.all run.misses) = true := by
  decide +kernel

theorem imageRuns_avoid_caseExpansions :
    imageRuns.all (fun run => caseExpansions.all fun entry => run.avoids entry.1) = true := by
  decide +kernel

def blankCodes : List Nat :=
  [0x9, 0xA, 0xB, 0xC, 0xD, 0x20, 0x85, 0xA0, 0x1680, 0x2000, 0x2001, 0x2002, 0x2003, 0x2004,
   0x2005, 0x2006, 0x2007, 0x2008, 0x2009, 0x200A, 0x2028, 0x2029, 0x202F, 0x205F, 0x3000]

theorem imageRuns_avoid_blankCodes :
    imageRuns.all (fun run => blankCodes.all run.avoids) = true := by
  decide +kernel

def letterRun : CaseRun := ⟨0x0061, 0x007A, 1, 0x0041⟩

theorem letterRun_mem : letterRun ∈ caseRuns := List.mem_cons_self

theorem letterRun_covers {code : Nat} (lower : 0x61 ≤ code) (upper : code ≤ 0x7A) :
    letterRun.covers code = true := by
  rw [CaseRun.covers_iff]
  exact ⟨lower, upper, Nat.mod_one _⟩

theorem upperCodes_of_untouched {code : Nat} (plain : ∀ run ∈ caseRuns, run.covers code = false)
    (single : ∀ entry ∈ caseExpansions, entry.1 ≠ code) : upperCodes code = [code] := by
  have noRun : caseRuns.find? (·.covers code) = none := by
    rw [List.find?_eq_none]
    intro run member
    simp [plain run member]
  have noExpansion : caseExpansions.lookup code = none := by
    rw [List.lookup_eq_none_iff]
    intro entry member
    simpa using Ne.symm (single entry member)
  have notLetter : ¬(0x61 ≤ code ∧ code ≤ 0x7A) := by
    rintro ⟨lower, upper⟩
    have uncovered := plain letterRun letterRun_mem
    rw [letterRun_covers lower upper] at uncovered
    contradiction
  simp [upperCodes, noRun, noExpansion, notLetter]

theorem upperCodes_image {run : CaseRun} {code : Nat} (member : run ∈ imageRuns)
    (covered : run.covers code = true) : upperCodes (run.image code) = [run.image code] := by
  apply upperCodes_of_untouched
  · intro other otherMember
    have apart := List.all_eq_true.mp imageRuns_miss_caseRuns run member
    exact CaseRun.not_covers_image (List.all_eq_true.mp apart other otherMember) covered
  · intro entry entryMember
    have apart := List.all_eq_true.mp imageRuns_avoid_caseExpansions run member
    exact (CaseRun.image_ne (List.all_eq_true.mp apart entry entryMember) covered).symm

def IsImage (mapped : Nat) : Prop :=
  ∃ run ∈ imageRuns, ∃ source, run.covers source = true ∧ run.image source = mapped

theorem isImage_of_caseRun {run : CaseRun} {code : Nat} (member : run ∈ caseRuns)
    (covered : run.covers code = true) : IsImage (run.image code) :=
  ⟨run, List.mem_append_left _ member, code, covered, rfl⟩

theorem isImage_of_expansion {code mapped : Nat} {codes : List Nat}
    (found : (code, codes) ∈ caseExpansions) (member : mapped ∈ codes) : IsImage mapped := by
  refine ⟨CaseRun.fixed mapped, ?_, mapped, ?_, ?_⟩
  · apply List.mem_append_right
    exact List.mem_flatMap.mpr ⟨_, found, List.mem_map_of_mem member⟩
  · simp [CaseRun.covers, CaseRun.fixed]
  · simp [CaseRun.image, CaseRun.fixed]

theorem mem_of_lookup {code : Nat} {codes : List Nat} {entries : List (Nat × List Nat)}
    (found : entries.lookup code = some codes) : (code, codes) ∈ entries := by
  obtain ⟨before, after, split, _⟩ := List.lookup_eq_some_iff.mp found
  simp [split]

theorem upperCodes_cases (code : Nat) :
    upperCodes code = [code] ∨ ∀ mapped ∈ upperCodes code, IsImage mapped := by
  by_cases low : code < 0xB5
  · by_cases letter : 0x61 ≤ code ∧ code ≤ 0x7A
    · have image : upperCodes code = [letterRun.image code] := by
        simp [upperCodes, low, letter, letterRun, CaseRun.image]
        omega
      right
      intro mapped member
      rw [image, List.mem_singleton] at member
      rw [member]
      exact isImage_of_caseRun letterRun_mem (letterRun_covers letter.1 letter.2)
    · left
      simp [upperCodes, low, letter]
  · cases expansion : caseExpansions.lookup code with
    | some codes =>
        right
        intro mapped member
        simp only [upperCodes, low, expansion, if_false] at member
        exact isImage_of_expansion (mem_of_lookup expansion) member
    | none =>
        cases covering : caseRuns.find? (·.covers code) with
        | some run =>
            right
            intro mapped member
            simp only [upperCodes, low, expansion, covering, if_false, List.mem_singleton] at member
            rw [member]
            have covered : run.covers code = true := by
              simpa using List.find?_some covering
            exact isImage_of_caseRun (List.mem_of_find?_eq_some covering) covered
        | none =>
            left
            simp [upperCodes, low, expansion, covering]

theorem upperCodes_idempotent {code mapped : Nat} (member : mapped ∈ upperCodes code) :
    upperCodes mapped = [mapped] := by
  rcases upperCodes_cases code with same | images
  · rw [same, List.mem_singleton] at member
    rw [member, same]
  · obtain ⟨run, runMember, source, covered, image⟩ := images mapped member
    rw [← image]
    exact upperCodes_image runMember covered

theorem caseExpansions_ne_nil :
    caseExpansions.all (fun entry => !entry.2.isEmpty) = true := by
  decide +kernel

theorem upperCodes_ne_nil (code : Nat) : upperCodes code ≠ [] := by
  unfold upperCodes
  split
  · split <;> simp
  · split
    · rename_i codes found
      have full := List.all_eq_true.mp caseExpansions_ne_nil _ (mem_of_lookup found)
      simpa using full
    · split <;> simp

theorem mem_blankCodes {c : Char} (blank : isBlank c = true) : c.toNat ∈ blankCodes := by
  simp only [isBlank, Bool.or_eq_true, Bool.and_eq_true, decide_eq_true_eq, beq_iff_eq] at blank
  simp only [blankCodes, List.mem_cons, List.not_mem_nil, or_false]
  omega

theorem not_mem_blankCodes_of_isImage {mapped : Nat} (image : IsImage mapped) :
    mapped ∉ blankCodes := by
  obtain ⟨run, runMember, source, covered, rfl⟩ := image
  intro member
  have apart := List.all_eq_true.mp imageRuns_avoid_blankCodes run runMember
  exact CaseRun.image_ne (List.all_eq_true.mp apart _ member) covered rfl

/-! A code that is no character stands for the character 0, which is neither blank nor mapped. -/

theorem toNat_ofNat_cases (code : Nat) :
    (Char.ofNat code).toNat = code ∨ Char.ofNat code = Char.ofNat 0 := by
  by_cases valid : code.isValidChar
  · left
    rw [Char.ofNat, dif_pos valid]
    rfl
  · right
    rw [Char.ofNat, dif_neg valid]
    rfl

theorem upperChar_ofNat {code : Nat} (settled : upperCodes code = [code]) :
    upperChar (Char.ofNat code) = [Char.ofNat code] := by
  rcases toNat_ofNat_cases code with same | zero
  · rw [upperChar, same, settled, List.map_singleton]
  · rw [zero]
    rfl

theorem upperChar_idempotent {c mapped : Char} (member : mapped ∈ upperChar c) :
    upperChar mapped = [mapped] := by
  obtain ⟨code, codeMember, rfl⟩ := List.mem_map.mp member
  exact upperChar_ofNat (upperCodes_idempotent codeMember)

theorem upperChar_not_blank {c mapped : Char} (visible : isBlank c = false)
    (member : mapped ∈ upperChar c) : isBlank mapped = false := by
  obtain ⟨code, codeMember, rfl⟩ := List.mem_map.mp member
  rcases upperCodes_cases c.toNat with same | images
  · rw [same, List.mem_singleton] at codeMember
    rw [codeMember, Char.ofNat_toNat]
    exact visible
  · rw [← Bool.not_eq_true]
    intro blank
    have listed := mem_blankCodes blank
    rcases toNat_ofNat_cases code with same | zero
    · rw [same] at listed
      exact not_mem_blankCodes_of_isImage (images code codeMember) listed
    · rw [zero] at blank
      contradiction

theorem upperChar_ne_nil (c : Char) : upperChar c ≠ [] := by
  simpa [upperChar] using upperCodes_ne_nil c.toNat

theorem upper_upper (text : String) : upper (upper text) = upper text := by
  have settled : ∀ mapped ∈ text.toList.flatMap upperChar, upperChar mapped = [mapped] := by
    intro mapped member
    obtain ⟨c, _, image⟩ := List.mem_flatMap.mp member
    exact upperChar_idempotent image
  rw [upper, upper, String.toList_ofList, List.flatMap_congr settled, List.flatMap_singleton']

theorem flatMap_upperChar_stripped {text : List Char} (stripped : Stripped isBlank text) :
    Stripped isBlank (text.flatMap upperChar) := by
  constructor
  · intro mapped found
    cases text with
    | nil => simp at found
    | cons c rest =>
        rw [List.flatMap_cons, List.head?_append_of_ne_nil _ (upperChar_ne_nil c)] at found
        exact upperChar_not_blank (stripped.first c rfl) (List.mem_of_head? found)
  · intro mapped found
    rcases List.eq_nil_or_concat text with rfl | ⟨front, c, rfl⟩
    · simp at found
    · rw [List.concat_eq_append, List.flatMap_append, List.flatMap_singleton,
        List.getLast?_append_of_ne_nil _ (upperChar_ne_nil c)] at found
      have visible : isBlank c = false := stripped.last c (by simp)
      exact upperChar_not_blank visible (List.mem_of_getLast? found)

end Playscript.Text

namespace Playscript

theorem normalizeTag_idempotent (tag : String) :
    normalizeTag (normalizeTag tag) = normalizeTag tag := by
  have stripped : Text.Stripped Text.isBlank (Text.upper (Text.trim tag)).toList := by
    rw [Text.upper, String.toList_ofList, Text.toList_trim]
    exact Text.flatMap_upperChar_stripped (Text.strip_stripped _ _)
  rw [normalizeTag, normalizeTag, Text.trim_of_stripped stripped, Text.upper_upper]

end Playscript
