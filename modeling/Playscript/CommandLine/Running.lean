import Playscript.CommandLine.Arguments
import Playscript.Player.LineMode
import Playscript.Player.Transcript

/-!
What a command prints and how it ends.
-/

namespace Playscript.CommandLine

/-- How the program ends. A fault is printed after all that was printed before it. -/
inductive Ending where
  | usage (usage : Usage)
  | done (printed : String) (result : Except Fault Unit)

namespace Ending

def code : Ending → Nat
  | usage .help => 0
  | usage .wrong => 2
  | done _ (.ok ()) => 0
  | done _ (.error _) => 1

def output : Ending → String
  | usage _ => ""
  | done printed (.ok ()) => printed
  | done printed (.error fault) => printed ++ LineMode.unlines fault.print

end Ending

def printing : Except Fault (List String) → Ending
  | .ok lines => .done (LineMode.unlines lines) (.ok ())
  | .error fault => .done "" (.error fault)

def check (disk : Disk) (script : String) (config : Option String) :
    Except Fault (List String) := do
  let config ← disk.loadConfig config
  let path ← disk.resolveFile script
  let text ← disk.readText path
  match Table.checkFormat config text with
  | .error cause => throw (.formatRejected cause)
  | .ok dataRows => return (Table.parse config text).print dataRows

def openSession (disk : Disk) (mode : RevealMode) (paths : SourcePaths) :
    Except Fault (String × Session) := do
  let source ← disk.loadSource paths
  let session ← Session.openSource mode source
  return (source.title, session)

def run (disk : Disk) (paths : SourcePaths) (choices : List Nat) :
    Except Fault (List String) := do
  let (_, session) ← openSession disk .manual paths
  let transcript ← session.transcript choices
  return transcript.print

def play (disk : Disk) (mode : RevealMode) (paths : SourcePaths) (input : List UInt8) : Ending :=
  match openSession disk mode paths with
  | .error fault => .done "" (.error fault)
  | .ok (title, session) =>
    let finished := LineMode.play title session input
    .done finished.printed finished.result

/-- Performs a command. Where there is no terminal to fill, the full-screen player reads and writes
lines. -/
def perform (disk : Disk) (input : List UInt8) : Command → Ending
  | .check script config => printing (check disk script config)
  | .run paths choices => printing (run disk paths choices)
  | .play paths => play disk .manual paths input
  | .screen paths _ => play disk .threaded paths input

def execute (disk : Disk) (arguments : List String) (input : List UInt8) : Ending :=
  match parse arguments with
  | .error usage => .usage usage
  | .ok command => perform disk input command

end Playscript.CommandLine
