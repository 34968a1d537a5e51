import Playscript.Config.Tags
import Playscript.Duration
import Playscript.Fault

/-!
How a script is read and how its lines are shown.
-/

namespace Playscript

structure Columns where
  address : Nat := 0
  tag : Nat := 1
  speaker : Nat := 2
  body : Nat := 3
  jump : Nat := 4
  variant : Nat := 5
  deriving DecidableEq, Repr, Inhabited

def Columns.highestRequired (columns : Columns) : Nat :=
  max columns.address (max columns.tag (max columns.speaker (max columns.body columns.jump)))

/-- The columns that a layout needs can be counted in 64 bits, as all counts are. -/
def Columns.Countable (columns : Columns) : Prop :=
  columns.highestRequired + 1 < UInt64.size

structure Config where
  columns : Columns := {}
  fieldDelimiter : Char := ','
  lineDelimiter : Char := '\n'
  headerRow : Nat := 0
  minColumns : Nat := 5
  tags : TagNames := {}
  defaultVariant : String := "default"
  emptyField : String := ""
  revealInterval : Float32 := Float32.ofBits 0x3CCCCCCD
  audioDelay : Float32 := 1
  textSpeed : Float32 := 6
  labelOpen : String := "【"
  labelClose : String := "】"
  bodyIndent : String := "  "
  deriving DecidableEq, Inhabited

namespace Config

def revealStep (config : Config) : Duration :=
  Duration.ofSeconds config.revealInterval

/-- How long a fully shown line of so many units stands before it is left by itself. -/
def autoPlayHold (config : Config) (units : Nat) : Duration :=
  Duration.ofSeconds (config.revealInterval * config.textSpeed * Float32.ofNat units)

def speakerLabel (config : Config) (name : String) : String :=
  config.labelOpen ++ name ++ config.labelClose

def indentedBody (config : Config) (body : String) : String :=
  config.bodyIndent ++ body

def kindOf? (config : Config) (tag : String) : Option LineKind :=
  config.tags.kindOf? (normalizeTag tag)

def require (condition : Prop) [Decidable condition] (fault : Fault) : Except Fault Unit :=
  if condition then .ok () else .error fault

def checkTags (names : TagNames) (earlier : List LineKind) : List LineKind → Except Fault Unit
  | [] => .ok ()
  | kind :: rest => do
    require (names.normalTag kind ≠ "") (.tagEmpty kind)
    match earlier.find? fun other => names.normalTag other == names.normalTag kind with
    | some other => .error (.tagDuplicate (names.normalTag kind) other kind)
    | none => checkTags names (earlier ++ [kind]) rest

def validate (config : Config) : Except Fault Unit := do
  require (config.fieldDelimiter ≠ config.lineDelimiter) (.delimiterClash config.fieldDelimiter)
  require (config.fieldDelimiter ≠ '\r') .returnDelimiter
  checkTags config.tags [] LineKind.all
  let needed := config.columns.highestRequired + 1
  require (needed ≤ config.minColumns) (.tooFewColumnsConfigured config.minColumns needed)
  require (0 < config.revealInterval) .intervalNotPositive

end Config
end Playscript
