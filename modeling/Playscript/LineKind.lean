/-!
The four kinds of script lines.
-/

namespace Playscript

inductive LineKind where
  | speech
  | narration
  | branch
  | terminate
  deriving DecidableEq, Repr, Inhabited

namespace LineKind

def all : List LineKind := [speech, narration, branch, terminate]

def name : LineKind → String
  | speech => "speech"
  | narration => "narration"
  | branch => "branch"
  | terminate => "terminate"

end LineKind

/-- Where a line stands in its script: a whole number of 32 bits with a sign. -/
abbrev Address := Int32

namespace Address

def next? (address : Address) : Option Address :=
  if address = Int32.maxValue then none else some (address + 1)

end Address
end Playscript
