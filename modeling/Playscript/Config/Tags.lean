import Playscript.LineKind
import Playscript.Text.Blank
import Playscript.Text.UpperCase

/-!
Tags: the words by which a script names the kinds of its lines. Tags are compared without the
blanks around them and in upper case.
-/

namespace Playscript

def normalizeTag (tag : String) : String :=
  Text.upper (Text.trim tag)

structure TagNames where
  speech : String := "W"
  narration : String := "T"
  branch : String := "O"
  terminate : String := "END"
  deriving DecidableEq, Repr, Inhabited

namespace TagNames

def tag (names : TagNames) : LineKind → String
  | .speech => names.speech
  | .narration => names.narration
  | .branch => names.branch
  | .terminate => names.terminate

def normalTag (names : TagNames) (kind : LineKind) : String :=
  normalizeTag (names.tag kind)

/-- The kind that a normalized tag stands for: of kinds that share one tag, the last. -/
def kindOf? (names : TagNames) (normalized : String) : Option LineKind :=
  LineKind.all.reverse.find? fun kind => names.normalTag kind == normalized

end TagNames
end Playscript
