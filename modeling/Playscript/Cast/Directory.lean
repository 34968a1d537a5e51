import Playscript.Cast
import Playscript.Disk
import Playscript.Text.FileName

/-!
A cast from a directory. Each directory in it is a speaker, and each file in that is one of the
speaker's looks. Hidden names, which begin with a dot, and everything else are passed over.
-/

namespace Playscript

def isHidden (name : String) : Bool := name.toList.head? == some '.'

def Node.visibleEntries (node : Node) : List (String × Node) :=
  (node.entries.filter fun entry => !isHidden entry.1).mergeSort fun one other => one.1 ≤ other.1

def forwardSlashes (path : String) : String :=
  String.ofList (path.toList.map fun c => if c = '\\' then '/' else c)

def Variant.ofEntry? (speaker : String) (entry : String × Node) : Option Variant :=
  if entry.2.isDirectory then none
  else some ⟨Text.fileStem entry.1, forwardSlashes (speaker ++ "/" ++ entry.1)⟩

/-- The speaker that an entry of the directory stands for. One without looks has no portrait. -/
def Speaker.ofEntry? (entry : String × Node) : Option Speaker :=
  if entry.2.isDirectory then
    let variants := entry.2.visibleEntries.filterMap (Variant.ofEntry? entry.1)
    some ⟨entry.1, !variants.isEmpty, variants⟩
  else none

def Cast.ofDirectory (node : Node) : Cast :=
  ⟨node.visibleEntries.filterMap Speaker.ofEntry?⟩

end Playscript
