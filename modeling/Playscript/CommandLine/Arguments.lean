import Playscript.Player.Loading
import Playscript.Text.Integer

/-!
The arguments of the command line: a mode and options with values. An option's value is the rest of
its argument after an equals sign, or the next argument, which then must not look like an option.
-/

namespace Playscript.CommandLine

inductive Command where
  | check (script : String) (config : Option String)
  | run (paths : SourcePaths) (choices : List Nat)
  | play (paths : SourcePaths)
  | screen (paths : SourcePaths) (auto : Bool)
  deriving DecidableEq, Repr

inductive Usage where
  | help
  | wrong
  deriving DecidableEq, Repr

inductive OptionKind where
  | flag
  | text
  | address
  | count
  deriving DecidableEq, Repr

structure OptionForm where
  name : String
  kind : OptionKind
  repeats : Bool := false
  deriving DecidableEq, Repr

def OptionKind.accepts (value : String) : OptionKind → Bool
  | flag => false
  | text => true
  | address => (Text.int32? value).isSome
  | count => (Text.count? value).isSome

abbrev Given := List (String × String)

def give (form : OptionForm) (value : String) (given : Given) : Except Usage Given :=
  if !form.repeats && given.any (·.1 == form.name) then .error .wrong
  else .ok (given ++ [(form.name, value)])

def giveValue (form : OptionForm) (value : String) (given : Given) : Except Usage Given :=
  if form.kind.accepts value then give form value given else .error .wrong

/-- Whether an argument may be the value of the option before it. A lone dash may. -/
def mayBeValue (argument : String) : Bool :=
  argument == "-" || argument.toList.head? != some '-'

def splitOption (argument : String) : String × Option String :=
  let characters := argument.toList.drop 2
  let name := String.ofList (characters.takeWhile (· != '='))
  match characters.dropWhile (· != '=') with
  | [] => (name, none)
  | _ :: value => (name, some (String.ofList value))

inductive ArgumentKind where
  | endOfOptions
  | long (name : String) (value : Option String)
  | short
  | shortHelp
  | plain
  deriving DecidableEq, Repr

def argumentKind (argument : String) : ArgumentKind :=
  match argument.toList with
  | ['-', '-'] => .endOfOptions
  | '-' :: '-' :: _ => .long (splitOption argument).1 (splitOption argument).2
  | '-' :: 'h' :: _ => .shortHelp
  | '-' :: _ :: _ => .short
  | _ => .plain

def readOptions (forms : List OptionForm) (given : Given) : List String → Except Usage Given
  | [] => .ok given
  | argument :: rest =>
    match argumentKind argument with
    | .endOfOptions => if rest.isEmpty then .ok given else .error .wrong
    | .short | .plain => .error .wrong
    | .shortHelp => .error .help
    | .long name attached =>
      match forms.find? (·.name == name) with
      | none => if name == "help" && attached.isNone then .error .help else .error .wrong
      | some form =>
        match form.kind, attached, rest with
        | .flag, some _, _ => .error .wrong
        | .flag, none, rest => do
          let next ← give form "" given
          readOptions forms next rest
        | _, some value, rest => do
          let next ← giveValue form value given
          readOptions forms next rest
        | _, none, [] => .error .wrong
        | _, none, value :: rest =>
          if mayBeValue value then do
            let next ← giveValue form value given
            readOptions forms next rest
          else .error .wrong

def checkForms : List OptionForm := [⟨"script", .text, false⟩, ⟨"config", .text, false⟩]

def sourceForms : List OptionForm :=
  checkForms ++
    [⟨"cast-dir", .text, false⟩, ⟨"cast-file", .text, false⟩, ⟨"entry", .address, false⟩]

def runForms : List OptionForm := sourceForms ++ [⟨"choice", .count, true⟩]

def screenForms : List OptionForm := sourceForms ++ [⟨"auto", .flag, false⟩]

def requiredScript (given : Given) : Except Usage String :=
  match given.lookup "script" with
  | some path => .ok path
  | none => .error .wrong

def sourcePaths (given : Given) : Except Usage SourcePaths := do
  let script ← requiredScript given
  if (given.lookup "cast-dir").isSome && (given.lookup "cast-file").isSome then throw .wrong
  return {
    script := script
    config := given.lookup "config"
    castDirectory := given.lookup "cast-dir"
    castFile := given.lookup "cast-file"
    entry := (given.lookup "entry").bind Text.int32? }

def givenChoices (given : Given) : List Nat :=
  given.filterMap fun (name, value) => if name == "choice" then Text.count? value else none

def modeNames : List String := ["check", "run", "play", "tui", "help"]

def helpUsage : List String → Usage
  | [] => .help
  | [name] => if modeNames.contains name then .help else .wrong
  | _ => .wrong

def parse : List String → Except Usage Command
  | "check" :: rest => do
    let given ← readOptions checkForms [] rest
    let script ← requiredScript given
    return .check script (given.lookup "config")
  | "run" :: rest => do
    let given ← readOptions runForms [] rest
    let paths ← sourcePaths given
    return .run paths (givenChoices given)
  | "play" :: rest => do
    let given ← readOptions sourceForms [] rest
    let paths ← sourcePaths given
    return .play paths
  | "tui" :: rest => do
    let given ← readOptions screenForms [] rest
    let paths ← sourcePaths given
    return .screen paths (given.lookup "auto").isSome
  | "help" :: rest => .error (helpUsage rest)
  | argument :: _ =>
    match argumentKind argument with
    | .shortHelp | .long "help" none => .error .help
    | _ => .error .wrong
  | [] => .error .wrong

end Playscript.CommandLine
