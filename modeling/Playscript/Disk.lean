import Playscript.Fault
import Playscript.Text.Split
import Playscript.Text.Utf8

/-!
Files as a tree, and the paths that lead to them. A path is followed piece by piece from the root;
whatever has a piece after it has to be a directory.
-/

namespace Playscript

inductive Node where
  | file (content : List UInt8)
  | directory (entries : List (String × Node))
  deriving Inhabited

namespace Node

def isDirectory : Node → Bool
  | file _ => false
  | directory _ => true

def entries : Node → List (String × Node)
  | file _ => []
  | directory entries => entries

/-- The tree with a node put at a place, through directories that are made where there are none. -/
def put (node leaf : Node) : List String → Node
  | [] => leaf
  | name :: rest =>
    let inner := (node.entries.lookup name).getD (directory [])
    directory ((name, inner.put leaf rest) :: node.entries.filter (·.1 != name))

end Node

/-- A tree of files, the absolute path at which relative paths begin, and how its readers complain. -/
structure Disk where
  root : Node
  workingDirectory : String
  wording : Wording := {}

namespace Disk

def pieces (path : String) : List String :=
  (Text.pieces (· == '/') path.toList).map String.ofList

def isAbsolute (path : String) : Bool := path.toList.head? == some '/'

def absolute (disk : Disk) (path : String) : String :=
  if isAbsolute path then path
  else if disk.workingDirectory.toList.getLast? == some '/' then disk.workingDirectory ++ path
  else disk.workingDirectory ++ "/" ++ path

def nameLimit : Nat := 255

def look (entries : List (String × Node)) (name : String) : Except ReadFault Node :=
  if nameLimit < name.utf8ByteSize then .error .nameTooLong
  else
    match entries.lookup name with
    | none => .error .missing
    | some node => .ok node

/-- Follows the pieces of a path from a node whose parents are known, the nearest first. -/
def follow (node : Node) (parents : List Node) : List String → Except ReadFault Node
  | [] => .ok node
  | piece :: rest =>
    match node with
    | .file _ => .error .notDirectory
    | .directory entries =>
      if piece = "" ∨ piece = "." then follow node parents rest
      else if piece = ".." then
        match parents with
        | [] => follow node [] rest
        | parent :: above => follow parent above rest
      else
        match look entries piece with
        | .error cause => .error cause
        | .ok inner => follow inner (node :: parents) rest

def pathLimit : Nat := 4095

def find (disk : Disk) (path : String) : Except ReadFault Node :=
  if path.toList.any (·.toNat == 0) then .error .nameHoldsNul
  else if pathLimit < path.utf8ByteSize then .error .nameTooLong
  else follow disk.root [] (pieces path)

def readText (disk : Disk) (path : String) : Except Fault String :=
  match disk.find path with
  | .error cause => .error (.unreadable (disk.wording.unread cause))
  | .ok (.directory _) => .error (.unreadable (disk.wording.unread .isDirectory))
  | .ok (.file content) =>
    match Text.decodeUtf8? content with
    | none => .error (.unreadable (disk.wording.unread .notUtf8))
    | some text => .ok text

def resolveFile (disk : Disk) (path : String) : Except Fault String :=
  let path := disk.absolute path
  match disk.find path with
  | .error _ => .error (.fileMissing path)
  | .ok (.directory _) => .error (.notFile path)
  | .ok (.file _) => .ok path

def resolveDirectory (disk : Disk) (path : String) : Except Fault String :=
  let path := disk.absolute path
  match disk.find path with
  | .error _ => .error (.directoryMissing path)
  | .ok (.directory _) => .ok path
  | .ok (.file _) => .error (.notDirectory path)

/-- The tree with the directories that a path leads through, made where they are missing, and the
names of its end. -/
def makeAlong (root : Node) (place : List String) : List String → Option (Node × List String)
  | [] => some (root, place)
  | piece :: rest =>
    if piece = "" ∨ piece = "." then makeAlong root place rest
    else if piece = ".." then makeAlong root place.dropLast rest
    else
      let inner := place ++ [piece]
      match follow root [] inner with
      | .ok (.directory _) => makeAlong root inner rest
      | .error .missing => makeAlong (root.put (.directory []) inner) inner rest
      | _ => none

def putFile (disk : Disk) (path : String) (content : List UInt8) : Disk :=
  let pieces := pieces (disk.absolute path)
  match makeAlong disk.root [] pieces.dropLast, pieces.getLast? with
  | some (root, above), some name =>
    let place := above ++ [name]
    match follow root [] place with
    | .ok (.file _) | .error .missing => { disk with root := root.put (.file content) place }
    | _ => disk
  | _, _ => disk

def putDirectory (disk : Disk) (path : String) : Disk :=
  match makeAlong disk.root [] (pieces (disk.absolute path)) with
  | some (root, _) => { disk with root }
  | none => disk

/-- The disk with a directory of these contents at a path, whatever is there. -/
def putContents (disk : Disk) (path : String) (entries : List (String × Node)) : Disk :=
  match makeAlong disk.root [] (pieces (disk.absolute path)) with
  | some (root, place) => { disk with root := root.put (.directory entries) place }
  | none => disk

def blank (workingDirectory : String) : Disk :=
  putDirectory { root := .directory [], workingDirectory := workingDirectory } workingDirectory

end Disk
end Playscript
