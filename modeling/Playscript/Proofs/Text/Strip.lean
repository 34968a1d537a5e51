import Mathlib.Data.List.TakeWhile
import Playscript.Text.Blank

/-!
A stripped text begins and ends with characters that stay, and a text that does so is left as it
is.
-/

namespace Playscript.Text

/-- Neither the first nor the last character belongs to the class that is removed. -/
structure Stripped (removed : Char → Bool) (text : List Char) : Prop where
  first : ∀ c, text.head? = some c → removed c = false
  last : ∀ c, text.getLast? = some c → removed c = false

theorem dropWhile_of_head (removed : Char → Bool) (text : List Char)
    (kept : ∀ c, text.head? = some c → removed c = false) : text.dropWhile removed = text := by
  cases text with
  | nil => rfl
  | cons c rest =>
      have stays : removed c = false := kept c rfl
      simp [stays]

theorem Stripped.strip_eq {removed : Char → Bool} {text : List Char}
    (stripped : Stripped removed text) : strip removed text = text := by
  rw [strip, dropWhile_of_head removed text stripped.first, dropEnd, dropWhile_of_head,
    List.reverse_reverse]
  intro c found
  rw [List.head?_reverse] at found
  exact stripped.last c found

theorem head_dropWhile_kept (removed : Char → Bool) (text : List Char) (c : Char)
    (found : (text.dropWhile removed).head? = some c) : removed c = false := by
  have kept := List.head?_dropWhile_not removed text
  rw [found] at kept
  simpa using kept

theorem dropEnd_prefix (removed : Char → Bool) (text : List Char) :
    dropEnd removed text <+: text := by
  have suffix := List.dropWhile_suffix (l := text.reverse) removed
  rw [← List.reverse_prefix, List.reverse_reverse] at suffix
  exact suffix

theorem strip_stripped (removed : Char → Bool) (text : List Char) :
    Stripped removed (strip removed text) := by
  constructor
  · intro c found
    obtain ⟨ending, whole⟩ := dropEnd_prefix removed (text.dropWhile removed)
    have begins : (text.dropWhile removed).head? = some c := by
      rw [← whole, List.head?_append, ← strip, found, Option.some_or]
    exact head_dropWhile_kept removed text c begins
  · intro c found
    rw [strip, dropEnd, List.getLast?_reverse] at found
    exact head_dropWhile_kept removed _ c found

theorem strip_eq_nil_iff (removed : Char → Bool) (text : List Char) :
    strip removed text = [] ↔ ∀ c ∈ text, removed c = true := by
  rw [strip, dropEnd, List.reverse_eq_nil_iff, List.dropWhile_eq_nil_iff]
  simp only [List.mem_reverse]
  constructor
  · intro all
    cases left : text.dropWhile removed with
    | nil => exact List.dropWhile_eq_nil_iff.mp left
    | cons c rest =>
        have kept : removed c = false := head_dropWhile_kept removed text c (by rw [left]; rfl)
        simp [left, kept] at all
  · intro all c listed
    exact all c ((List.dropWhile_suffix removed).subset listed)

@[simp] theorem toList_trim (text : String) : (trim text).toList = strip isBlank text.toList := by
  simp [trim]

theorem trim_of_stripped {text : String} (stripped : Stripped isBlank text.toList) :
    trim text = text := by
  rw [trim, stripped.strip_eq, String.ofList_toList]

@[simp] theorem trim_trim (text : String) : trim (trim text) = trim text := by
  apply trim_of_stripped
  rw [toList_trim]
  exact strip_stripped isBlank text.toList

end Playscript.Text
