import Playscript.Cast.Directory
import Playscript.Cast.Reading
import Playscript.Config.Reading
import Playscript.Player.Session

/-!
Loading what a session needs from files.
-/

namespace Playscript

structure SourcePaths where
  script : String
  config : Option String := none
  castDirectory : Option String := none
  castFile : Option String := none
  entry : Option Address := none
  deriving DecidableEq, Repr

namespace Disk

def loadConfig (disk : Disk) : Option String → Except Fault Config
  | none => .ok {}
  | some path => do
    let resolved ← disk.resolveFile path
    let text ← disk.readText resolved
    Config.ofText disk.wording text

def loadCastDirectory (disk : Disk) (path : String) : Except Fault Cast :=
  match disk.find path with
  | .error cause => .error (.castUnlisted (disk.wording.unlisted path cause))
  | .ok node => .ok (Cast.ofDirectory node)

def loadCastFile (disk : Disk) (path : String) : Except Fault Cast := do
  let text ← disk.readText path
  Cast.ofText disk.wording text

def loadCast (disk : Disk) (directory file : Option String) : Except Fault CastLookup := do
  match directory, file with
  | some path, _ =>
    let resolved ← disk.resolveDirectory path
    return (← disk.loadCastDirectory resolved).lookup
  | none, some path =>
    let resolved ← disk.resolveFile path
    return (← disk.loadCastFile resolved).lookup
  | none, none => return .nobody

/-- Loads the script, the configuration and the cast, in this order. The title is the stem of the
script's name. -/
def loadSource (disk : Disk) (paths : SourcePaths) : Except Fault Source := do
  let scriptPath ← disk.resolveFile paths.script
  let text ← disk.readText scriptPath
  let config ← disk.loadConfig paths.config
  let cast ← disk.loadCast paths.castDirectory paths.castFile
  return {
    title := Text.fileStem (Text.fileName scriptPath)
    text := text
    config := config
    cast := cast
    entry := paths.entry }

end Disk
end Playscript
