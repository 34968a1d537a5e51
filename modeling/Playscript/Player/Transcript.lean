import Playscript.Json.Quoted
import Playscript.Player.Boundary
import Playscript.Table.Report

/-!
What the command line prints of a script: one item on each line, in which all free text is quoted.
-/

namespace Playscript

inductive TranscriptEntry where
  | line (shown : ShownLine)
  | chose (index : Nat) (label : String)
  deriving DecidableEq, Repr

namespace TranscriptEntry

def print : TranscriptEntry → List String
  | line shown =>
    [s!"LINE:{shown.address}", "SPEAKER_JSON:" ++ Json.quote shown.label,
      "TEXT_JSON:" ++ Json.quote shown.text]
  | chose index label => [s!"CHOSE:{index}|" ++ Json.quote label]

end TranscriptEntry

def BoundaryKind.print : BoundaryKind → List String
  | ended => ["EVENT:END"]
  | choices options =>
    "EVENT:CHOICES" :: options.map fun (index, label) => s!"CHOICE:{index}|" ++ Json.quote label

structure Transcript where
  entries : List TranscriptEntry
  kind : BoundaryKind
  deriving DecidableEq, Repr

def Transcript.print (transcript : Transcript) : List String :=
  "RESULT:OK" :: transcript.entries.flatMap TranscriptEntry.print ++ transcript.kind.print

namespace Session

/-- Picks the options of these indices one after the other, from a boundary that was reached. -/
def pickAll (session : Session) (boundary : Boundary) :
    List Nat → Except Fault Transcript
  | [] => .ok ⟨boundary.lines.map .line, boundary.kind⟩
  | index :: rest =>
    match boundary.kind with
    | .ended => .error (.choiceUnused index)
    | .choices options =>
      match session.chooseToBoundary index with
      | (.error fault, _) => .error fault
      | (.ok next, later) => do
        let label := (options.lookup index).getD ""
        let transcript ← pickAll later next rest
        return { transcript with
          entries := boundary.lines.map .line ++ .chose index label :: transcript.entries }

def transcript (session : Session) (choices : List Nat) : Except Fault Transcript :=
  match session.runToBoundary with
  | (.error fault, _) => .error fault
  | (.ok boundary, reached) => reached.pickAll boundary choices

end Session

namespace Table

def Issue.print (issue : Issue) : String :=
  let notice := issue.notice
  s!"ISSUE:{issue.line}|{notice.code}|" ++ Json.quote notice.message

def Report.print (report : Report) (dataRows : Nat) : List String :=
  ["RESULT:OK", "FORMAT_JSON:" ++ Json.quote (passedReason dataRows),
    s!"RECORDS:{report.graph.size}"] ++
    report.issues.map Issue.print ++
    report.graph.danglingJumps.map fun (source, target) => s!"DANGLING:{source}|{target}"

end Table

def Fault.print (fault : Fault) : List String :=
  ["RESULT:ERROR", "ERROR_CODE:" ++ fault.code, "ERROR_MSG_JSON:" ++ Json.quote fault.message]

end Playscript
