import Mathlib.Data.List.Basic
import Mathlib.Data.List.Perm.Subperm
import Playscript.Proofs.Playback.Course

/-!
The walk that a script lays out from an address: line after line along the jumps. It ends where
there is no line to show, and one that is longer than the script has lines goes round in a circle.
-/

namespace Playscript

namespace Production

def IsLine (production : Production) (record : Record) : Prop :=
  production.kindOf? record = some .speech ∨ production.kindOf? record = some .narration

instance (production : Production) : DecidablePred production.IsLine :=
  fun _ => inferInstanceAs (Decidable (_ ∨ _))

def lineCount (production : Production) : Nat :=
  (production.graph.records.filter fun record => production.IsLine record).length

/-- The lines on the way from one address to another, each reached by the jump of the one before. -/
inductive Walk (production : Production) : Address → List Record → Address → Prop
  | stay (address : Address) : Walk production address [] address
  | step {start target last : Address} {record : Record} {rest : List Record} :
      production.graph.get? start = some record → production.IsLine record →
      record.jump = some target → Walk production target rest last →
      Walk production start (record :: rest) last

def Halts (production : Production) (address : Address) : Prop :=
  ∀ record, production.graph.get? address = some record → ¬production.IsLine record

def Cycles (production : Production) (start : Address) : Prop :=
  ∃ before loop middle, production.Walk start before middle ∧
    production.Walk middle loop middle ∧ loop ≠ []

namespace Walk

variable {production : Production} {start last : Address} {records : List Record}

theorem isLine (walk : production.Walk start records last) {record : Record}
    (listed : record ∈ records) :
    record ∈ production.graph.records ∧ production.IsLine record := by
  induction walk with
  | stay => contradiction
  | step found line _ _ ih =>
      rcases List.mem_cons.1 listed with rfl | later
      · exact ⟨Graph.mem_of_get? found, line⟩
      · exact ih later

theorem append {middle : Address} {before after : List Record}
    (first : production.Walk start before middle) (second : production.Walk middle after last) :
    production.Walk start (before ++ after) last := by
  induction first with
  | stay => exact second
  | step found line jump _ ih => exact .step found line jump (ih second)

theorem split {before after : List Record} {record : Record}
    (walk : production.Walk start (before ++ record :: after) last) :
    production.Walk start before record.address := by
  induction before generalizing start with
  | nil =>
      cases walk with
      | step found _ _ _ =>
          rw [Graph.address_of_get? found]
          exact .stay start
  | cons head rest ih =>
      cases walk with
      | step found line jump later => exact .step found line jump (ih later)

theorem nodup_or_cycles (walk : production.Walk start records last) :
    records.Nodup ∨ production.Cycles start := by
  induction walk with
  | stay => exact Or.inl List.nodup_nil
  | @step start target last record rest found line jump later ih =>
      by_cases again : record ∈ rest
      · obtain ⟨before, after, rfl⟩ := List.append_of_mem again
        have round := Walk.step found line jump later.split
        rw [Graph.address_of_get? found] at round
        exact Or.inr ⟨[], record :: before, start, .stay start, round, List.cons_ne_nil _ _⟩
      · rcases ih with distinct | ⟨before, loop, middle, leads, round, nonempty⟩
        · exact Or.inl (List.nodup_cons.mpr ⟨again, distinct⟩)
        · exact Or.inr ⟨record :: before, loop, middle, .step found line jump leads, round, nonempty⟩

theorem length_le_lineCount (walk : production.Walk start records last)
    (distinct : records.Nodup) : records.length ≤ production.lineCount := by
  have covered : records ⊆ production.graph.records.filter fun record =>
      production.IsLine record := by
    intro record listed
    obtain ⟨member, line⟩ := walk.isLine listed
    exact List.mem_filter.mpr ⟨member, by simpa using line⟩
  exact (List.subperm_of_subset distinct covered).length_le

end Walk

namespace Cycles

variable {production : Production} {start : Address}

theorem step (cycles : production.Cycles start) :
    ∃ record target, production.graph.get? start = some record ∧ production.IsLine record ∧
      record.jump = some target ∧ production.Cycles target := by
  obtain ⟨before, loop, middle, leads, round, nonempty⟩ := cycles
  cases leads with
  | stay =>
      cases round with
      | stay => contradiction
      | @step _ target _ record rest found line jump later =>
          have next : production.Walk start [record] target :=
            .step found line jump (.stay target)
          exact ⟨record, target, found, line, jump, rest, [record] ++ rest, start, later,
            next.append later, List.cons_ne_nil _ _⟩
  | @step _ target _ record rest found line jump later =>
      exact ⟨record, target, found, line, jump, rest, loop, middle, later, round, nonempty⟩

theorem follow (cycles : production.Cycles start) {records : List Record} {last : Address}
    (walk : production.Walk start records last) : production.Cycles last := by
  induction walk with
  | stay => exact cycles
  | step found _ jump _ ih =>
      obtain ⟨record, target, same, _, jumps, onward⟩ := cycles.step
      obtain rfl := Option.some.inj (found.symm.trans same)
      obtain rfl := Option.some.inj (jump.symm.trans jumps)
      exact ih onward

theorem not_halts (cycles : production.Cycles start) {records : List Record} {last : Address}
    (walk : production.Walk start records last) : ¬production.Halts last := by
  intro halts
  obtain ⟨record, _, found, line, _⟩ := (cycles.follow walk).step
  exact halts record found line

end Cycles

theorem Playable.walk_or_halts {production : Production} (playable : production.Playable)
    (start : Address) (count : Nat) :
    (∃ records last, production.Walk start records last ∧ records.length = count) ∨
      ∃ records last, production.Walk start records last ∧ records.length < count ∧
        production.Halts last := by
  induction count generalizing start with
  | zero => exact Or.inl ⟨[], start, .stay start, rfl⟩
  | succ count ih =>
      by_cases halts : production.Halts start
      · exact Or.inr ⟨[], start, .stay start, Nat.succ_pos count, halts⟩
      · obtain ⟨record, found, line⟩ : ∃ record, production.graph.get? start = some record ∧
            production.IsLine record := by
          simpa [Halts] using halts
        have goesOn : record.jump ≠ none := by
          rcases line with speech | narration
          · exact playable.jump (Graph.mem_of_get? found) speech (by decide)
          · exact playable.jump (Graph.mem_of_get? found) narration (by decide)
        obtain ⟨target, jump⟩ := Option.ne_none_iff_exists'.mp goesOn
        rcases ih target with ⟨records, last, walk, long⟩ | ⟨records, last, walk, short, ends⟩
        · exact Or.inl ⟨record :: records, last, .step found line jump walk, by simp [long]⟩
        · exact Or.inr ⟨record :: records, last, .step found line jump walk, by simpa using short,
            ends⟩

theorem Playable.halts_or_cycles {production : Production} (playable : production.Playable)
    (start : Address) {count : Nat} (few : production.lineCount < count) :
    production.Cycles start ∨
      ∃ records last, production.Walk start records last ∧ records.length < count ∧
        production.Halts last := by
  rcases playable.walk_or_halts start count with ⟨records, last, walk, long⟩ | halts
  · rcases walk.nodup_or_cycles with distinct | cycles
    · have bound := walk.length_le_lineCount distinct
      omega
    · exact Or.inl cycles
  · exact Or.inr halts

end Production
end Playscript
