import Playscript.History
import Playscript.Playback.Step
import Playscript.Table.Report

/-!
A session: a performance together with its history, which takes down what the playback records.
-/

namespace Playscript

structure Source where
  title : String
  text : String
  config : Config := {}
  cast : CastLookup := .nobody
  entry : Option Address := none

structure Session where
  production : Production
  playback : Playback
  history : History := .empty

def Production.ofText (text : String) (request : Request) : Except Fault Production := do
  let report ← Table.load request.config text
  prepare report.graph request

namespace Session

def openSource (mode : RevealMode) (source : Source) : Except Fault Session := do
  let production ← Production.ofText source.text {
    config := source.config
    cast := source.cast
    entry := source.entry
    mode := mode }
  return ⟨production, production.opening, .empty⟩

def config (session : Session) : Config := session.production.config

def recordedEntry? : Event → Option HistoryEntry
  | .recorded record => some (HistoryEntry.ofRecord record)
  | _ => none

def after (session : Session) (step : Step α) : Session where
  production := session.production
  playback := step.next
  history := session.history.addAll (step.events.filterMap recordedEntry?)

def advance (session : Session) : Except Fault Outcome × Session :=
  let step := session.playback.advance session.production
  (step.result, session.after step)

def choose (session : Session) (index : Nat) : Except Fault Outcome × Session :=
  let step := session.playback.choose session.production index
  (step.result, session.after step)

def restart (session : Session) : Session :=
  { session with playback := (session.playback.restart session.production).next, history := .empty }

def skip (session : Session) : Bool × Session :=
  let (skipped, playback) := session.playback.skip
  (skipped, { session with playback := playback })

def visibleText (session : Session) : String :=
  session.playback.visibleText session.production

def formattedHistory (session : Session) : List String :=
  session.history.formatted session.config

end Session
end Playscript
