import Playscript.Record

/-!
Scripts as graphs of records. A graph holds at most one record for each address, in ascending
order of addresses; of two records inserted at one address the later stays.
-/

namespace Playscript

def insertRecord (record : Record) : List Record → List Record
  | [] => [record]
  | first :: rest =>
    if record.address < first.address then record :: first :: rest
    else if record.address = first.address then record :: rest
    else first :: insertRecord record rest

def Ascending (records : List Record) : Prop :=
  records.Pairwise fun earlier later => earlier.address < later.address

theorem mem_insertRecord {record member : Record} {records : List Record}
    (found : member ∈ insertRecord record records) : member = record ∨ member ∈ records := by
  induction records with
  | nil => simpa [insertRecord] using found
  | cons first rest ih =>
    simp only [insertRecord] at found
    split at found
    · simpa using found
    · split at found
      · rcases List.mem_cons.1 found with same | inRest
        · exact .inl same
        · exact .inr (List.mem_cons_of_mem first inRest)
      · rcases List.mem_cons.1 found with same | inRest
        · exact .inr (by simp [same])
        · exact (ih inRest).imp id (List.mem_cons_of_mem first)

theorem ascending_insertRecord {records : List Record} (record : Record)
    (ascending : Ascending records) : Ascending (insertRecord record records) := by
  induction records with
  | nil => simp [insertRecord, Ascending]
  | cons first rest ih =>
    obtain ⟨below, tail⟩ := List.pairwise_cons.1 ascending
    simp only [insertRecord]
    split
    case isTrue before =>
      refine List.pairwise_cons.2 ⟨fun other member => ?_, ascending⟩
      rcases List.mem_cons.1 member with rfl | inRest
      · exact before
      · exact Int32.lt_trans before (below other inRest)
    case isFalse notBefore =>
      split
      case isTrue same => exact List.pairwise_cons.2 ⟨fun other member => same ▸ below other member, tail⟩
      case isFalse different =>
        refine List.pairwise_cons.2 ⟨fun other member => ?_, ih tail⟩
        rcases mem_insertRecord member with rfl | inRest
        · exact Int32.lt_of_le_of_ne (Int32.not_lt.1 notBefore) (Ne.symm different)
        · exact below other inRest

structure Graph where
  records : List Record
  ascending : Ascending records

namespace Graph

def empty : Graph := ⟨[], List.Pairwise.nil⟩

instance : Inhabited Graph := ⟨empty⟩

def insert (graph : Graph) (record : Record) : Graph :=
  ⟨insertRecord record graph.records, ascending_insertRecord record graph.ascending⟩

def ofList (records : List Record) : Graph :=
  records.foldl insert empty

def get? (graph : Graph) (address : Address) : Option Record :=
  graph.records.find? fun record => record.address = address

def contains (graph : Graph) (address : Address) : Bool :=
  (graph.get? address).isSome

def size (graph : Graph) : Nat := graph.records.length

def isEmpty (graph : Graph) : Bool := graph.records.isEmpty

def addresses (graph : Graph) : List Address := graph.records.map Record.address

def first? (graph : Graph) : Option Address := graph.addresses.head?

def replace (graph : Graph) (record : Record) : Option Record × Graph :=
  (graph.get? record.address, graph.insert record)

/-- The jumps that lead to no record, as pairs of where they start and where they lead. -/
def danglingJumps (graph : Graph) : List (Address × Address) :=
  graph.records.filterMap fun record =>
    record.jump.bind fun target =>
      if graph.contains target then none else some (record.address, target)

end Graph
end Playscript
