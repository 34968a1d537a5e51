import Playscript.LineKind
import Playscript.Text.CharLiteral

/-!
What can go wrong, by cause. Each cause has one kind, one code and one message, and names an
address when it belongs to a line.
-/

namespace Playscript

inductive FaultKind where
  | format
  | rowParse
  | resolution
  | dispatch
  | collaboratorMiss
  | state
  | config
  | io
  deriving DecidableEq, Repr, Inhabited

structure Notice where
  kind : FaultKind
  code : String
  message : String
  address : Option Address := none
  deriving DecidableEq, Repr, Inhabited

inductive FormatFault where
  | emptyText
  | noDataRows (rows : Nat)
  | narrowHeader (found required : Nat)
  deriving DecidableEq, Repr

def FormatFault.reason : FormatFault → String
  | emptyText => "Script text is empty."
  | noDataRows rows => s!"Script needs a header row and at least one data row ({rows} rows found)."
  | narrowHeader found required =>
    s!"Header has {found} columns, at least {required} are required."

inductive ReadFault where
  | missing
  | notDirectory
  | isDirectory
  | nameHoldsNul
  | nameTooLong
  | notUtf8
  deriving DecidableEq, Repr

def ReadFault.message : ReadFault → String
  | missing => "No such file or directory (os error 2)"
  | notDirectory => "Not a directory (os error 20)"
  | isDirectory => "Is a directory (os error 21)"
  | nameHoldsNul => "file name contained an unexpected NUL byte"
  | nameTooLong => "File name too long (os error 36)"
  | notUtf8 => "stream did not contain valid UTF-8"

/-- The words of those who read files, directories and JSON. A fault carries them on as they are. -/
structure Wording where
  unread : ReadFault → String := ReadFault.message
  unlisted (path : String) (cause : ReadFault) : String :=
    s!"IO error for operation on {path}: {cause.message}"
  noConfig : String → String := fun _ => "The text is not a configuration in JSON."
  noCast : String → String := fun _ => "The text is not a list of speakers in JSON."

inductive Fault where
  | delimiterClash (delimiter : Char)
  | returnDelimiter
  | tagEmpty (kind : LineKind)
  | tagDuplicate (tag : String) (earlier later : LineKind)
  | tooFewColumnsConfigured (minimum needed : Nat)
  | intervalNotPositive
  | formatRejected (cause : FormatFault)
  | noPlayableRows (skipped : Nat)
  | emptyGraph
  | entryMissing (address : Address)
  | addressMissing (address : Address)
  | tagUnknown (address : Address) (tag : String)
  | jumpMissing (address : Address)
  | noPendingChoice
  | choiceOutOfRange (index : Nat)
  | stepLimit (steps : Nat)
  | choiceUnused (index : Nat)
  | noSelection
  | fileMissing (path : String)
  | directoryMissing (path : String)
  | notFile (path : String)
  | notDirectory (path : String)
  | unreadable (complaint : String)
  | castUnlisted (complaint : String)
  | configMalformed (complaint : String)
  | castMalformed (complaint : String)
  | castUnnamed (index : Nat)
  | inputNotUtf8
  deriving DecidableEq, Repr

namespace Fault

def kind : Fault → FaultKind
  | delimiterClash _ | returnDelimiter | tagEmpty _ | tagDuplicate .. |
    tooFewColumnsConfigured .. | intervalNotPositive | configMalformed _ | castMalformed _ |
    castUnnamed _ => .config
  | formatRejected _ | noPlayableRows _ | emptyGraph => .format
  | entryMissing _ | addressMissing _ => .resolution
  | tagUnknown .. | jumpMissing _ => .dispatch
  | noPendingChoice | choiceOutOfRange _ | stepLimit _ | choiceUnused _ | noSelection => .state
  | fileMissing _ | directoryMissing _ | notFile _ | notDirectory _ | unreadable _ |
    castUnlisted _ | inputNotUtf8 => .io

def code : Fault → String
  | delimiterClash _ | returnDelimiter => "CONFIG_DELIMITER_CLASH"
  | tagEmpty _ => "CONFIG_TAG_EMPTY"
  | tagDuplicate .. => "CONFIG_TAG_DUPLICATE"
  | tooFewColumnsConfigured .. => "CONFIG_MIN_COLUMNS"
  | intervalNotPositive => "CONFIG_REVEAL_INTERVAL"
  | formatRejected _ => "FORMAT_INVALID"
  | noPlayableRows _ => "API_SCRIPT_EMPTY"
  | emptyGraph => "ENGINE_SCRIPT_EMPTY"
  | entryMissing _ => "ENGINE_ENTRY_NOT_FOUND"
  | addressMissing _ => "ENGINE_ADDRESS_NOT_FOUND"
  | tagUnknown .. => "ENGINE_UNKNOWN_TAG"
  | jumpMissing _ => "ENGINE_JUMP_MISSING"
  | noPendingChoice => "ENGINE_NO_PENDING_CHOICE"
  | choiceOutOfRange _ => "ENGINE_CHOICE_INDEX"
  | stepLimit _ => "CLI_STEP_LIMIT"
  | choiceUnused _ => "CLI_CHOICE_UNUSED"
  | noSelection => "TUI_CHOICE_PARSE"
  | fileMissing _ | directoryMissing _ => "CLI_SOURCE_NOT_FOUND"
  | notFile _ => "CLI_SOURCE_NOT_FILE"
  | notDirectory _ => "CLI_SOURCE_NOT_DIR"
  | unreadable _ => "CLI_SOURCE_READ"
  | castUnlisted _ => "CLI_CAST_SCAN"
  | configMalformed _ => "CLI_CONFIG_INVALID"
  | castMalformed _ | castUnnamed _ => "CLI_CAST_INVALID"
  | inputNotUtf8 => "TUI_IO"

def message : Fault → String
  | delimiterClash delimiter =>
    s!"Field and line delimiter must differ (both are {Text.charLiteral delimiter})."
  | returnDelimiter => "Field delimiter cannot be a carriage return."
  | tagEmpty kind => s!"Tag for {kind.name} must not be empty."
  | tagDuplicate tag earlier later =>
    s!"Tag \"{tag}\" is used for both {earlier.name} and {later.name}."
  | tooFewColumnsConfigured minimum needed =>
    s!"minRequiredColumns is {minimum} but the column layout needs at least {needed}."
  | intervalNotPositive => "revealIntervalSecs must be positive."
  | formatRejected cause => cause.reason
  | noPlayableRows skipped => s!"No playable rows were parsed ({skipped} rows skipped)."
  | emptyGraph => "Script graph has no records."
  | entryMissing address => s!"Entry address {address} is not in the script."
  | addressMissing address => s!"Address {address} is not in the script."
  | tagUnknown address tag => s!"Line {address} has unknown tag \"{tag}\"."
  | jumpMissing address => s!"Line {address} has no jump target."
  | noPendingChoice => "No pending choice is available."
  | choiceOutOfRange index => s!"Choice index \"{index}\" is out of range."
  | stepLimit steps => s!"No choice or end reached after {steps} lines; the script may loop."
  | choiceUnused index => s!"--choice {index} given but the dialogue already ended."
  | noSelection => "No choices available"
  | fileMissing path => s!"File does not exist: {path}"
  | directoryMissing path => s!"Directory does not exist: {path}"
  | notFile path => s!"Path is not a file: {path}"
  | notDirectory path => s!"Path is not a directory: {path}"
  | unreadable complaint | castUnlisted complaint | configMalformed complaint |
    castMalformed complaint => complaint
  | castUnnamed index => s!"Cast entry {index} has an empty name."
  | inputNotUtf8 => ReadFault.notUtf8.message

def address? : Fault → Option Address
  | entryMissing address | addressMissing address | tagUnknown address _ | jumpMissing address =>
    some address
  | _ => none

def notice (fault : Fault) : Notice :=
  ⟨fault.kind, fault.code, fault.message, fault.address?⟩

end Fault
end Playscript
