import Playscript.Config
import Playscript.Record

/-!
The history of a performance: the lines that were shown and the options that were picked. What a
history says is the list of its entries in order, and `entries_add` and `entries_addAll` say how it
grows.
-/

namespace Playscript

structure HistoryEntry where
  address : Address
  tag : String
  speaker : String
  body : String
  deriving DecidableEq, Repr, Inhabited

namespace HistoryEntry

def ofRecord (record : Record) : HistoryEntry :=
  ⟨record.address, record.tag, record.speaker, record.body⟩

def hasTag (config : Config) (entry : HistoryEntry) (kind : LineKind) : Bool :=
  normalizeTag entry.tag == config.tags.normalTag kind

def format (config : Config) (entry : HistoryEntry) : String :=
  if entry.hasTag config .branch then "> " ++ entry.body
  else if entry.speaker.isEmpty || entry.hasTag config .narration then entry.body
  else config.speakerLabel entry.speaker ++ " " ++ entry.body

end HistoryEntry

/-- Entries with the latest at the head, so that a long history grows without being copied. -/
structure History where
  latestFirst : List HistoryEntry := []
  deriving DecidableEq, Repr, Inhabited

namespace History

def empty : History := {}

def entries (history : History) : List HistoryEntry := history.latestFirst.reverse

def size (history : History) : Nat := history.latestFirst.length

def add (history : History) (entry : HistoryEntry) : History := ⟨entry :: history.latestFirst⟩

def addAll (history : History) (later : List HistoryEntry) : History := later.foldl add history

def ofList (entries : List HistoryEntry) : History := empty.addAll entries

@[simp] theorem entries_empty : empty.entries = [] := rfl

@[simp] theorem entries_add (history : History) (entry : HistoryEntry) :
    (history.add entry).entries = history.entries ++ [entry] := by
  simp [entries, add]

@[simp] theorem entries_addAll (history : History) (later : List HistoryEntry) :
    (history.addAll later).entries = history.entries ++ later := by
  induction later generalizing history with
  | nil => simp [addAll]
  | cons entry rest ih =>
    have grown := ih (history.add entry)
    simpa [addAll] using grown

@[simp] theorem entries_ofList (entries : List HistoryEntry) : (ofList entries).entries = entries := by
  simp [ofList]

@[simp] theorem length_entries (history : History) : history.entries.length = history.size := by
  simp [entries, size]

def formatted (config : Config) (history : History) : List String :=
  history.entries.map (HistoryEntry.format config)

end History
end Playscript
