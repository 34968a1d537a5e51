import Playscript.CommandLine.Running

/-!
The program: it looks at the files that its arguments name, performs the command, and for the line
mode reads and writes line by line.
-/

namespace Playscript

def readDirectory (depth : Nat) (path : String) : IO Node := do
  let place ← IO.FS.realPath path
  let mut entries := #[]
  for entry in ← place.readDir do
    if ← entry.path.isDir then
      let inner ← match depth with
        | 0 => pure (Node.directory [])
        | depth + 1 => readDirectory depth entry.path.toString
      entries := entries.push (entry.fileName, inner)
    else
      entries := entries.push (entry.fileName, Node.file [])
  return .directory entries.toList

def lookThrough (disk : Disk) (path : String) : IO Disk := do
  let pieces := Disk.pieces (disk.absolute path)
  (List.range pieces.length).foldlM (fun disk count => do
    let above := "/".intercalate (pieces.take count) ++ "/"
    if ← (← IO.FS.realPath above).isDir then return disk.putDirectory above else return disk) disk

def lookAt (disk : Disk) (path : String) : IO Disk := do
  let disk ← lookThrough disk path
  if ← (← IO.FS.realPath path).isDir then
    return disk.putContents path (← readDirectory 1 path).entries
  else return disk.putFile path (← IO.FS.readBinFile path).toList

/-- The disk with what is at a path, as far as there is something that can be read. -/
def lookIfThere (disk : Disk) (path : String) : IO Disk := do
  try lookAt disk path
  catch _ => return disk

def SourcePaths.all (paths : SourcePaths) : List String :=
  [paths.castDirectory, some paths.script, paths.config, paths.castFile].filterMap id

def CommandLine.Command.paths : Command → List String
  | check script config => script :: config.toList
  | run paths _ | play paths | screen paths _ => paths.all

def sayEnding (ending : CommandLine.Ending) : IO UInt32 := do
  IO.print ending.output
  return ending.code.toUInt32

partial def readLine (input : IO.FS.Stream) (line : List UInt8) : IO (List UInt8) := do
  match (← input.read 1).toList with
  | [] => return line.reverse
  | byte :: _ =>
    if byte = 0x0A then return (byte :: line).reverse else readLine input (byte :: line)

partial def converse (input output : IO.FS.Stream) (turn : LineMode.Turn) :
    IO (Except Fault Unit) := do
  output.putStr turn.printed
  output.flush
  match turn.standing with
  | .over result => return result
  | .asking prompt =>
    match ← readLine input [] with
    | [] => return .ok ()
    | line => converse input output (LineMode.answerBytes turn.session prompt line)

def converseFrom (disk : Disk) (mode : RevealMode) (paths : SourcePaths) : IO UInt32 := do
  match CommandLine.openSession disk mode paths with
  | .error fault => sayEnding (.done "" (.error fault))
  | .ok (title, session) =>
    let turn := (LineMode.showNext session).after (LineMode.banner title)
    let result ← converse (← IO.getStdin) (← IO.getStdout) turn
    sayEnding (.done "" result)

end Playscript

open Playscript in
def main (arguments : List String) : IO UInt32 := do
  match CommandLine.parse arguments with
  | .error usage => sayEnding (.usage usage)
  | .ok command =>
    let start := Disk.blank (← IO.currentDir).toString
    let disk ← command.paths.foldlM lookIfThere start
    match command with
    | .play paths => converseFrom disk .manual paths
    | .screen paths _ => converseFrom disk .threaded paths
    | _ => sayEnding (CommandLine.perform disk [] command)
