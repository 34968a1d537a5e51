import Playscript.Text.Cluster.Tables

/-!
A text as a sequence of clusters, the units that a reader takes for one character each: a letter
with its marks, a syllable, a picture that is put together from several.
-/

namespace Playscript.Text

inductive ClusterClass where
  | carriageReturn
  | lineFeed
  | control
  | extender
  | nonJoiner
  | linker
  | joiner
  | spacingMark
  | flagLetter
  | initialJamo
  | vowelJamo
  | finalJamo
  | openSyllable
  | closedSyllable
  | prefixSign
  | pictograph
  | consonant
  | plain
  deriving DecidableEq, Repr, Inhabited

namespace ClusterClass

def hangul? (code : Nat) : Option ClusterClass :=
  if 0xAC00 ≤ code ∧ code ≤ 0xD7A3 then
    some (if (code - 0xAC00) % 28 = 0 then openSyllable else closedSyllable)
  else if (0x1100 ≤ code ∧ code ≤ 0x115F) ∨ (0xA960 ≤ code ∧ code ≤ 0xA97C) then some initialJamo
  else if (0x1160 ≤ code ∧ code ≤ 0x11A7) ∨ (0xD7B0 ≤ code ∧ code ≤ 0xD7C6) ∨ code = 0x16D63 ∨
      (0x16D67 ≤ code ∧ code ≤ 0x16D6A) then some vowelJamo
  else if (0x11A8 ≤ code ∧ code ≤ 0x11FF) ∨ (0xD7CB ≤ code ∧ code ≤ 0xD7FB) then some finalJamo
  else none

def ofCode (code : Nat) : ClusterClass :=
  if code = 0x0D then carriageReturn
  else if code = 0x0A then lineFeed
  else if Cluster.controls.has code then control
  else if code < 0xA9 then plain
  else if code = 0x200C then nonJoiner
  else if code = 0x200D then joiner
  else if Cluster.linkers.has code then linker
  else if Cluster.extenders.has code then extender
  else if Cluster.spacingMarks.has code then spacingMark
  else if Cluster.consonants.has code then consonant
  else if Cluster.pictographs.has code then pictograph
  else if Cluster.prefixSigns.has code then prefixSign
  else if 0x1F1E6 ≤ code ∧ code ≤ 0x1F1FF then flagLetter
  else (hangul? code).getD plain

def ofChar (c : Char) : ClusterClass := ofCode c.toNat

def standsAlone : ClusterClass → Bool
  | carriageReturn | lineFeed | control => true
  | _ => false

def joinsBefore : ClusterClass → Bool
  | extender | nonJoiner | linker | joiner | spacingMark => true
  | _ => false

end ClusterClass

/-- How far a picture that may go on after a joiner has come. -/
inductive PictureStage where
  | none
  | begun
  | joined
  deriving DecidableEq, Repr, Inhabited

inductive LinkStage where
  | none
  | begun
  | linked
  deriving DecidableEq, Repr, Inhabited

/-- What matters of a cluster so far for the question whether it goes on. -/
structure ClusterState where
  last : ClusterClass
  picture : PictureStage := .none
  link : LinkStage := .none
  oddFlag : Bool := false
  deriving DecidableEq, Repr, Inhabited

namespace ClusterState

def pictureAfter (stage : PictureStage) : ClusterClass → PictureStage
  | .pictograph => .begun
  | .extender | .nonJoiner | .linker => if stage = .begun then .begun else .none
  | .joiner => if stage = .begun then .joined else .none
  | _ => .none

def linkAfter (stage : LinkStage) : ClusterClass → LinkStage
  | .consonant => .begun
  | .linker => if stage = .none then .none else .linked
  | .extender | .joiner => stage
  | _ => .none

def push (state : ClusterState) (next : ClusterClass) : ClusterState where
  last := next
  picture := pictureAfter state.picture next
  link := linkAfter state.link next
  oddFlag := next == .flagLetter && !state.oddFlag

def start (first : ClusterClass) : ClusterState :=
  push ⟨.control, .none, .none, false⟩ first

def goesOn (state : ClusterState) (next : ClusterClass) : Bool :=
  if state.last = .carriageReturn ∧ next = .lineFeed then true
  else if state.last.standsAlone || next.standsAlone then false
  else if next.joinsBefore || state.last == .prefixSign then true
  else
    match state.last, next with
    | .initialJamo, .initialJamo | .initialJamo, .vowelJamo | .initialJamo, .openSyllable
    | .initialJamo, .closedSyllable => true
    | .vowelJamo, .vowelJamo | .vowelJamo, .finalJamo => true
    | .openSyllable, .vowelJamo | .openSyllable, .finalJamo => true
    | .closedSyllable, .finalJamo | .finalJamo, .finalJamo => true
    | .flagLetter, .flagLetter => state.oddFlag
    | _, .pictograph => state.picture = .joined
    | _, .consonant => state.link = .linked
    | _, _ => false

end ClusterState

def clustersAfter (state : ClusterState) : List Char → List (List Char)
  | [] => [[]]
  | c :: rest =>
    let next := ClusterClass.ofChar c
    if state.goesOn next then (clustersAfter (state.push next) rest).modifyHead (c :: ·)
    else [] :: (clustersAfter (.start next) rest).modifyHead (c :: ·)

def clusters : List Char → List (List Char)
  | [] => []
  | c :: rest => (clustersAfter (.start (.ofChar c)) rest).modifyHead (c :: ·)

end Playscript.Text
