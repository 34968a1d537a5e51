import Mathlib.Data.List.Basic
import Playscript.Player.Transcript
import Playscript.Proofs.Json.Quoted
import Playscript.Proofs.Text.Integer

/-!
What is printed of a transcript can be read in one way only. Each item says by its tag what it is,
its number ends before a bar, and free text is quoted, so no text can pass for an item or end one.
-/

namespace Playscript

namespace Text

/-- A text without control characters, and so without a line break. -/
def Plain (text : String) : Prop :=
  ∀ c ∈ text.toList, 0x20 ≤ c.toNat

instance (text : String) : Decidable (Plain text) :=
  decidable_of_iff ((text.toList.all fun c => 0x20 ≤ c.toNat) = true) (by simp [Plain])

theorem Plain.append {first second : String} (plain : Plain first) (also : Plain second) :
    Plain (first ++ second) := by
  intro c listed
  rw [String.toList_append, List.mem_append] at listed
  exact listed.elim (plain c) (also c)

theorem Plain.noLineBreak {text : String} (plain : Plain text) : '\n' ∉ text.toList := by
  intro listed
  exact absurd (plain '\n' listed) (by decide)

theorem Spells.plain_of {text : List Char} {value : Int} (spells : Spells text value) :
    ∀ c ∈ text, 0x20 ≤ c.toNat := by
  have digits {digits : List Char} {value : Nat} (decimal : Decimal digits value) :
      ∀ c ∈ digits, 0x20 ≤ c.toNat := by
    intro c listed
    have code := code_of_isDigit (decimal.digit c listed)
    omega
  cases spells with
  | plain decimal => exact digits decimal
  | plus decimal | minus decimal => exact List.forall_mem_cons.mpr ⟨by decide, digits decimal⟩

theorem plain_natural (value : Nat) : Plain (toString value) :=
  (spells_toString value).plain_of

theorem plain_address (address : Address) : Plain (toString address) :=
  (spells_toString address.toInt).plain_of

end Text

namespace Text

theorem append_cons_inj {separator : Char} {first other rest more : List Char}
    (free : separator ∉ first) (alsoFree : separator ∉ other)
    (same : first ++ separator :: rest = other ++ separator :: more) :
    first = other ∧ rest = more := by
  rcases List.append_eq_append_iff.mp same with ⟨middle, rfl, tail⟩ | ⟨middle, rfl, tail⟩
  · cases middle with
    | nil => simpa using tail
    | cons c middle =>
        obtain ⟨rfl, _⟩ := List.cons.inj tail
        simp at alsoFree
  · cases middle with
    | nil => simpa using tail.symm
    | cons c middle =>
        obtain ⟨rfl, _⟩ := List.cons.inj tail
        simp at free

end Text

theorem addressItem_inj {tag : String} {address other : Address}
    (same : tag ++ toString address = tag ++ toString other) : address = other := by
  have read := Text.int32?_toString address
  rw [(String.append_right_inj tag).mp same, Text.int32?_toString] at read
  exact (Option.some.inj read).symm

theorem quotedItem_inj {tag text other : String}
    (same : tag ++ Json.quote text = tag ++ Json.quote other) : text = other :=
  Json.quote_inj ((String.append_right_inj tag).mp same)

theorem indexedItem_inj {tag : String} {index other : Nat} {label text : String}
    (same : tag ++ toString index ++ "|" ++ Json.quote label =
      tag ++ toString other ++ "|" ++ Json.quote text) : index = other ∧ label = text := by
  have bar : ("|" : String).toList = ['|'] := by decide
  have noBar (value : Nat) : '|' ∉ Nat.toDigits 10 value := by
    intro listed
    exact absurd ((Text.decimal_toDigits value).digit '|' listed) (by decide)
  have chars := congrArg String.toList same
  simp only [String.toList_append, bar, List.append_assoc, List.singleton_append,
    List.append_cancel_left_eq, Text.toList_toString] at chars
  obtain ⟨digits, quoted⟩ := Text.append_cons_inj (noBar index) (noBar other) chars
  exact ⟨Text.toDigits_inj digits, Json.quote_inj (String.toList_injective quoted)⟩

def mark (items : List String) : Option Char :=
  items.head?.bind fun item => item.toList.head?

@[simp]
theorem mark_line (shown : ShownLine) (rest : List String) :
    mark ((TranscriptEntry.line shown).print ++ rest) = some 'L' := by
  simp [mark, TranscriptEntry.print, toString]

@[simp]
theorem mark_chose (index : Nat) (label : String) (rest : List String) :
    mark ((TranscriptEntry.chose index label).print ++ rest) = some 'C' := by
  simp [mark, TranscriptEntry.print, toString]

@[simp]
theorem mark_kind (kind : BoundaryKind) : mark kind.print = some 'E' := by
  cases kind <;> simp [mark, BoundaryKind.print]

/-- The step lemma: the items of an entry show which entry it is and where they end. -/
theorem TranscriptEntry.print_append_inj {entry other : TranscriptEntry} {rest more : List String}
    (same : entry.print ++ rest = other.print ++ more) : entry = other ∧ rest = more := by
  cases entry with
  | line shown =>
      cases other with
      | line again =>
          simp only [print, List.cons_append, List.nil_append, List.cons.injEq] at same
          obtain ⟨address, label, text, rest⟩ := same
          cases shown
          cases again
          obtain rfl := addressItem_inj address
          obtain rfl := quotedItem_inj label
          obtain rfl := quotedItem_inj text
          exact ⟨rfl, rest⟩
      | chose => exact absurd (congrArg mark same) (by simp)
  | chose index label =>
      cases other with
      | line => exact absurd (congrArg mark same) (by simp)
      | chose again text =>
          simp only [print, List.cons_append, List.nil_append, List.cons.injEq] at same
          obtain ⟨item, rest⟩ := same
          obtain ⟨rfl, rfl⟩ := indexedItem_inj item
          exact ⟨rfl, rest⟩

theorem BoundaryKind.print_inj {kind other : BoundaryKind} (same : kind.print = other.print) :
    kind = other := by
  cases kind with
  | ended =>
      cases other with
      | ended => rfl
      | choices options => simp [print] at same
  | choices options =>
      cases other with
      | ended => simp [print] at same
      | choices others =>
          have injective : Function.Injective fun option : Nat × String =>
              s!"CHOICE:{option.1}|" ++ Json.quote option.2 := by
            intro option other same
            exact Prod.ext_iff.mpr (indexedItem_inj same)
          have items := (List.cons.inj same).2
          rw [List.map_injective_iff.mpr injective items]

/-- The run lemma: from the first entry to the boundary there is one way to read the items. -/
theorem TranscriptEntry.prints_inj {entries others : List TranscriptEntry}
    {kind last : BoundaryKind}
    (same : entries.flatMap print ++ kind.print = others.flatMap print ++ last.print) :
    entries = others ∧ kind = last := by
  induction entries generalizing others with
  | nil =>
      cases others with
      | nil => exact ⟨rfl, BoundaryKind.print_inj same⟩
      | cons entry others =>
          rw [List.flatMap_cons, List.append_assoc] at same
          cases entry <;> exact absurd (congrArg mark same) (by simp)
  | cons entry entries ih =>
      rw [List.flatMap_cons, List.append_assoc] at same
      cases others with
      | nil => cases entry <;> exact absurd (congrArg mark same) (by simp)
      | cons other others =>
          rw [List.flatMap_cons, List.append_assoc] at same
          obtain ⟨rfl, rest⟩ := print_append_inj same
          obtain ⟨rfl, rfl⟩ := ih rest
          exact ⟨rfl, rfl⟩

theorem Transcript.print_inj {transcript other : Transcript}
    (same : transcript.print = other.print) : transcript = other := by
  obtain ⟨entries, kind⟩ := transcript
  obtain ⟨others, last⟩ := other
  obtain ⟨rfl, rfl⟩ := TranscriptEntry.prints_inj (List.cons.inj same).2
  rfl

theorem Fault.print_eq_iff (fault other : Fault) :
    fault.print = other.print ↔ fault.code = other.code ∧ fault.message = other.message := by
  simp only [print, List.cons.injEq, true_and, and_true, String.append_right_inj]
  exact and_congr_right fun _ => ⟨Json.quote_inj, congrArg Json.quote⟩

theorem Transcript.print_ne_fault (transcript : Transcript) (fault : Fault) :
    transcript.print ≠ fault.print := by
  intro same
  simp [print, Fault.print] at same

section

open Text

theorem plain_quoted {tag : String} (plain : Plain tag) (text : String) :
    Plain (tag ++ Json.quote text) :=
  plain.append (Json.quote_printable text)

theorem plain_indexed {tag : String} (plain : Plain tag) (index : Nat) (label : String) :
    Plain (tag ++ toString index ++ "|" ++ Json.quote label) :=
  plain_quoted ((plain.append (plain_natural index)).append (by decide)) label

theorem TranscriptEntry.print_plain (entry : TranscriptEntry) :
    ∀ item ∈ entry.print, Plain item := by
  cases entry with
  | line shown =>
      simp only [print, List.forall_mem_cons]
      have address : Plain s!"LINE:{shown.address}" := Plain.append (by decide) (plain_address _)
      exact ⟨address, plain_quoted (by decide) _, plain_quoted (by decide) _, by simp⟩
  | chose index label =>
      simp only [print, List.forall_mem_cons]
      exact ⟨plain_indexed (by decide) index label, by simp⟩

theorem BoundaryKind.print_plain (kind : BoundaryKind) : ∀ item ∈ kind.print, Plain item := by
  cases kind with
  | ended => simp only [print, List.forall_mem_singleton]; decide
  | choices options =>
      simp only [print, List.forall_mem_cons, List.forall_mem_map]
      exact ⟨by decide, fun option _ => plain_indexed (by decide) option.1 option.2⟩

theorem Transcript.print_plain (transcript : Transcript) :
    ∀ item ∈ transcript.print, Plain item := by
  intro item listed
  rw [print, List.cons_append, List.mem_cons, List.mem_append, List.mem_flatMap] at listed
  rcases listed with rfl | ⟨entry, _, inEntry⟩ | inKind
  · decide
  · exact entry.print_plain item inEntry
  · exact transcript.kind.print_plain item inKind

theorem Fault.plain_code (fault : Fault) : Plain fault.code := by
  cases fault <;> (simp only [code]; decide)

theorem Fault.print_plain (fault : Fault) : ∀ item ∈ fault.print, Plain item := by
  simp only [print, List.forall_mem_cons]
  exact ⟨by decide, .append (by decide) fault.plain_code, plain_quoted (by decide) _, by simp⟩

end

end Playscript
