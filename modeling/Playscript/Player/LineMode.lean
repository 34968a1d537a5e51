import Playscript.Player.Session
import Playscript.Text.Integer
import Playscript.Text.Utf8

/-!
The player that reads and writes lines. Between two lines of input it shows what comes next and
asks: after a line for any answer, at a menu for the number of an option. Some answers are
commands. Each line of input makes one turn, and a turn plays at most one line.
-/

namespace Playscript.LineMode

def helpText : String := "commands: :help :history :restart :quit"

def unlines (lines : List String) : String :=
  String.join (lines.map (· ++ "\n"))

def banner (title : String) : String :=
  unlines ["Dialogue: " ++ title, helpText]

inductive Prompt where
  | afterLine
  | atMenu (options : List BranchOption)
  deriving DecidableEq, Repr

def Prompt.text : Prompt → String
  | afterLine => ""
  | atMenu _ => "> "

/-- What an answer asks the player to do once its own lines are written. -/
inductive Action where
  | notHandled
  | askAgain
  | showNext
  | quit
  deriving DecidableEq, Repr

/-- The command that a line stands for, the lines it writes and the session after it. Blanks around
a command do not matter. -/
def command (session : Session) (line : String) : Action × List String × Session :=
  match Text.trim line with
  | ":help" => (.askAgain, [helpText], session)
  | ":history" => (.askAgain, session.formattedHistory, session)
  | ":restart" => (.showNext, ["restarted"], session.restart)
  | ":quit" => (.quit, ["bye"], session)
  | _ => (.notHandled, [], session)

inductive Standing where
  | asking (prompt : Prompt)
  | over (result : Except Fault Unit)

/-- What is written in a turn, and the operations that the session is asked for. -/
structure Turn where
  printed : String
  calls : List Operation
  session : Session
  standing : Standing

namespace Turn

def ask (printed : String) (session : Session) (prompt : Prompt) : Turn :=
  ⟨printed ++ prompt.text, [], session, .asking prompt⟩

def close (printed : String) (session : Session) (result : Except Fault Unit) : Turn :=
  ⟨printed, [], session, .over result⟩

def after (printed : String) (turn : Turn) : Turn :=
  { turn with printed := printed ++ turn.printed }

def calling (calls : List Operation) (turn : Turn) : Turn :=
  { turn with calls := calls ++ turn.calls }

end Turn

def lineText (view : View) : String :=
  unlines ("" :: (if view.label.isEmpty then [] else [view.label]) ++ [view.body])

def menuText (options : List BranchOption) : String :=
  unlines ("" :: options.map fun option => s!"  [{option.index}] {option.label}")

def endText : String := unlines ["", "[END]"]

def showOutcome (session : Session) : Except Fault Outcome → Turn
  | .error fault => Turn.close "" session (.error fault)
  | .ok (.line ..) =>
    let shown := session.skip.2
    (Turn.ask (lineText shown.playback.view) shown .afterLine).calling [.skip]
  | .ok (.choices options) => Turn.ask (menuText options) session (.atMenu options)
  | .ok .ended => Turn.close endText session (.ok ())

def showNext (session : Session) : Turn :=
  let (outcome, next) := session.advance
  (showOutcome next outcome).calling [.advance]

def picked? (options : List BranchOption) (line : String) : Option Nat :=
  (Text.count? (Text.trim line)).filter (· < options.length)

def answerMenu (session : Session) (options : List BranchOption) (line : String) : Turn :=
  match picked? options line with
  | some index =>
    let (outcome, next) := session.choose index
    (showOutcome next outcome).calling [.choose index]
  | none => Turn.ask (unlines ["invalid choice: " ++ line]) session (.atMenu options)

def answer (session : Session) (prompt : Prompt) (line : String) : Turn :=
  let (action, lines, next) := command session line
  match action with
  | .askAgain => Turn.ask (unlines lines) next prompt
  | .quit => Turn.close (unlines lines) next (.ok ())
  | .showNext => ((showNext next).after (unlines lines)).calling [.restart]
  | .notHandled =>
    match prompt with
    | .afterLine => showNext next
    | .atMenu options => answerMenu next options line

def isLineEnd (c : Char) : Bool := c == '\n' || c == '\r'

/-- A line of input without its end, or none when it is not UTF-8. -/
def inputLine? (bytes : List UInt8) : Option String :=
  (Text.decodeUtf8? bytes).map fun text => String.ofList (Text.dropEnd isLineEnd text.toList)

def answerBytes (session : Session) (prompt : Prompt) (bytes : List UInt8) : Turn :=
  match inputLine? bytes with
  | none => Turn.close "" session (.error .inputNotUtf8)
  | some line => answer session prompt line

/-- A session that is over: all that was written and asked for, how it ended, and the lines not
read. -/
structure Finished where
  printed : String
  calls : List Operation
  result : Except Fault Unit
  session : Session
  unread : List (List UInt8)

def Finished.after (printed : String) (finished : Finished) : Finished :=
  { finished with printed := printed ++ finished.printed }

def Finished.calling (calls : List Operation) (finished : Finished) : Finished :=
  { finished with calls := calls ++ finished.calls }

/-- Goes on from a turn with the lines of input that are left. The end of the input ends the
session without a fault. -/
def goOn (turn : Turn) : List (List UInt8) → Finished
  | [] =>
    match turn.standing with
    | .over result => ⟨turn.printed, turn.calls, result, turn.session, []⟩
    | .asking _ => ⟨turn.printed, turn.calls, .ok (), turn.session, []⟩
  | line :: rest =>
    match turn.standing with
    | .over result => ⟨turn.printed, turn.calls, result, turn.session, line :: rest⟩
    | .asking prompt =>
      ((goOn (answerBytes turn.session prompt line) rest).after turn.printed).calling turn.calls

def play (title : String) (session : Session) (input : List UInt8) : Finished :=
  (goOn (showNext session) (Text.byteLines input)).after (banner title)

end Playscript.LineMode
