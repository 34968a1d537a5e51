import Playscript.Player.Loading
import Playscript.Proofs.Cast

/-!
What a scan of a directory promises of its cast: a speaker has a portrait exactly when there is a
look to show.
-/

namespace Playscript

theorem Speaker.ofEntry?_eq_some_iff (entry : String × Node) (speaker : Speaker) :
    Speaker.ofEntry? entry = some speaker ↔ entry.2.isDirectory = true ∧
      speaker.name = entry.1 ∧ speaker.hasPortrait = !speaker.variants.isEmpty ∧
      speaker.variants = entry.2.visibleEntries.filterMap (Variant.ofEntry? entry.1) := by
  obtain ⟨name, portrait, variants⟩ := speaker
  by_cases directory : entry.2.isDirectory = true
  · simp only [Speaker.ofEntry?, directory, if_true, Option.some.injEq, mk.injEq, true_and]
    constructor
    · rintro ⟨rfl, rfl, rfl⟩
      exact ⟨rfl, rfl, rfl⟩
    · rintro ⟨rfl, rfl, rfl⟩
      exact ⟨rfl, rfl, rfl⟩
  · simp [Speaker.ofEntry?, directory]

theorem Cast.ofDirectory_hasPortrait_iff {node : Node} {speaker : Speaker}
    (member : speaker ∈ (Cast.ofDirectory node).speakers) :
    speaker.hasPortrait = true ↔ speaker.variants ≠ [] := by
  obtain ⟨entry, _, made⟩ := List.mem_filterMap.mp member
  obtain ⟨_, _, portrait, _⟩ := (Speaker.ofEntry?_eq_some_iff entry speaker).mp made
  simp [portrait]

theorem Disk.loadCastDirectory_eq_ok_iff (disk : Disk) (path : String) (cast : Cast) :
    disk.loadCastDirectory path = .ok cast ↔
      ∃ node, disk.find path = .ok node ∧ Cast.ofDirectory node = cast := by
  unfold loadCastDirectory
  split <;> simp_all

end Playscript
