import Playscript.CommandLine.Running
import Playscript.Proofs.Player.LineMode
import Playscript.Proofs.Player.Transcript

/-!
What a run prints. It prints nothing before it knows how it ends, and then either its fault or all
of its story, so that the output says what happened and nothing else can be read into it.
-/

namespace Playscript

theorem LineMode.lineBytes_injective : Function.Injective lineBytes := by
  intro line other same
  exact (String.append_left_inj "\n").mp (Text.encodeUtf8_injective same)

namespace CommandLine

def told (disk : Disk) (paths : SourcePaths) (choices : List Nat) : Except Fault Transcript := do
  let (_, session) ← openSession disk .manual paths
  session.transcript choices

def items : Except Fault Transcript → List String
  | .ok transcript => transcript.print
  | .error fault => fault.print

/-- What can be known of a fault from the output: its code and its message. -/
def spoken (telling : Except Fault Transcript) : Except (String × String) Transcript :=
  telling.mapError fun fault => (fault.code, fault.message)

theorem run_eq (disk : Disk) (paths : SourcePaths) (choices : List Nat) :
    run disk paths choices = Transcript.print <$> told disk paths choices := by
  rw [run, told, map_bind]
  rfl

theorem output_run (disk : Disk) (input : List UInt8) (paths : SourcePaths) (choices : List Nat) :
    (perform disk input (.run paths choices)).output =
      LineMode.unlines (items (told disk paths choices)) := by
  rw [perform, run_eq]
  cases told disk paths choices with
  | ok transcript => rfl
  | error fault => exact String.empty_append

theorem items_plain (telling : Except Fault Transcript) :
    ∀ item ∈ items telling, Text.Plain item := by
  cases telling with
  | ok transcript => exact transcript.print_plain
  | error fault => exact fault.print_plain

theorem byteLines_items (telling : Except Fault Transcript) :
    Text.byteLines (Text.encodeUtf8 (LineMode.unlines (items telling))) =
      (items telling).map LineMode.lineBytes :=
  LineMode.byteLines_unlines fun item listed => (items_plain telling item listed).noLineBreak

theorem items_eq_iff (telling other : Except Fault Transcript) :
    items telling = items other ↔ spoken telling = spoken other := by
  cases telling with
  | ok transcript =>
      cases other with
      | ok another =>
          simp only [items, spoken, Except.mapError, Except.ok.injEq]
          exact ⟨Transcript.print_inj, congrArg _⟩
      | error fault => simp [items, spoken, Except.mapError, transcript.print_ne_fault fault]
  | error fault =>
      cases other with
      | ok transcript =>
          simp [items, spoken, Except.mapError, (transcript.print_ne_fault fault).symm]
      | error another => simp [items, spoken, Except.mapError, fault.print_eq_iff another]

structure Legible (disk : Disk) (paths : SourcePaths) (choices : List Nat) (output : String) :
    Prop where
  failed (fault : Fault) : told disk paths choices = .error fault →
    output = LineMode.unlines ["RESULT:ERROR", "ERROR_CODE:" ++ fault.code,
      "ERROR_MSG_JSON:" ++ Json.quote fault.message]
  succeeded (transcript : Transcript) : told disk paths choices = .ok transcript →
    output = LineMode.unlines ("RESULT:OK" ::
      transcript.entries.flatMap TranscriptEntry.print ++ transcript.kind.print)
  -- A story that is told is told from the first line to the boundary after the last choice.
  whole (transcript : Transcript) : told disk paths choices = .ok transcript →
    ∃ title session boundary reached legs final,
      openSession disk .manual paths = .ok (title, session) ∧
      session.runToBoundary = (.ok boundary, reached) ∧ reached.Picks legs final ∧
      legs.map Prod.fst = choices ∧ transcript = .ofLegs boundary legs
  lines : Text.byteLines (Text.encodeUtf8 output) =
    (items (told disk paths choices)).map LineMode.lineBytes
  plain : ∀ item ∈ items (told disk paths choices), Text.Plain item
  faithful (otherDisk : Disk) (otherPaths : SourcePaths) (otherChoices : List Nat)
      (otherInput : List UInt8) :
    Text.encodeUtf8 output =
        Text.encodeUtf8 (perform otherDisk otherInput (.run otherPaths otherChoices)).output ↔
      spoken (told disk paths choices) = spoken (told otherDisk otherPaths otherChoices)

/-- Two runs print the same bytes exactly when they tell the same story, or fail with the same code
and message. -/
theorem run_legible (disk : Disk) (paths : SourcePaths) (choices : List Nat) (input : List UInt8) :
    Legible disk paths choices (perform disk input (.run paths choices)).output where
  failed := by
    intro fault stopped
    rw [output_run, stopped]
    rfl
  succeeded := by
    intro transcript ended
    rw [output_run, ended]
    rfl
  whole := by
    intro transcript ended
    obtain ⟨⟨title, session⟩, opened, driven⟩ := (bind_eq_ok_iff _ _ transcript).mp ended
    obtain ⟨boundary, reached, legs, final, all⟩ := Session.picks_of_transcript driven
    exact ⟨title, session, boundary, reached, legs, final, opened, all⟩
  lines := by
    rw [output_run]
    exact byteLines_items _
  plain := items_plain _
  faithful := by
    intro otherDisk otherPaths otherChoices otherInput
    rw [output_run, output_run, ← items_eq_iff]
    constructor
    · intro same
      have lines := congrArg Text.byteLines same
      rw [byteLines_items, byteLines_items] at lines
      exact List.map_injective_iff.mpr LineMode.lineBytes_injective lines
    · intro same
      rw [same]

/-- A script with an option whose text looks like items of the output, and one without it. -/
def forgery : Disk where
  root := .directory [
    ("config", .file (Text.encodeUtf8 "\x7b\"lineDelimiter\": \";\"\x7d")),
    ("forged", .file (Text.encodeUtf8 "at,tag,who,what,next;1,O,,Go\"\nEVENT:END,2;2,END,,,")),
    ("honest", .file (Text.encodeUtf8 "at,tag,who,what,next;1,O,,Go,2;2,END,,,"))]
  workingDirectory := "/"

theorem run_atForgery :
    let output := fun script choices =>
      (perform forgery [] (.run ⟨script, some "config", none, none, none⟩ choices)).output
    output "forged" [0] =
      "RESULT:OK\nCHOSE:0|\"Go\\\"\\nEVENT:END\"\nEVENT:END\n" ∧
    output "forged" [1] =
      "RESULT:ERROR\nERROR_CODE:ENGINE_CHOICE_INDEX\n" ++
        "ERROR_MSG_JSON:\"Choice index \\\"1\\\" is out of range.\"\n" ∧
    Text.encodeUtf8 (output "forged" [0]) ≠ Text.encodeUtf8 (output "honest" [0]) := by
  intro output
  let paths (script : String) : SourcePaths := ⟨script, some "config", none, none, none⟩
  have forged : told forgery (paths "forged") [0] =
      .ok ⟨[.chose 0 "Go\"\nEVENT:END"], .ended⟩ := by decide +kernel
  have refused : told forgery (paths "forged") [1] = .error (.choiceOutOfRange 1) := by
    decide +kernel
  have honest : told forgery (paths "honest") [0] = .ok ⟨[.chose 0 "Go"], .ended⟩ := by
    decide +kernel
  have legible := run_legible forgery (paths "forged") [0] []
  refine ⟨(legible.succeeded _ forged).trans (by decide +kernel),
    ((run_legible forgery (paths "forged") [1] []).failed _ refused).trans (by decide +kernel), ?_⟩
  intro same
  have told := (legible.faithful forgery (paths "honest") [0] []).mp same
  rw [forged, honest] at told
  simp [spoken, Except.mapError] at told

end CommandLine
end Playscript
