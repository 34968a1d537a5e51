import Playscript.Cast
import Playscript.Config
import Playscript.Graph
import Playscript.Reveal
import Playscript.Units

/-!
What is fixed for a performance of a script, and what changes while it is played.
-/

namespace Playscript

structure View where
  cursor : Address
  label : String := ""
  body : String := ""
  portrait : Option Portrait := none
  avatar : Bool := false
  shown : Option Address := none
  deriving DecidableEq, Repr, Inhabited

structure BranchOption where
  index : Nat
  address : Address
  label : String
  target : Address
  deriving DecidableEq, Repr, Inhabited

inductive Phase where
  | ready
  | presenting
  | awaitingChoice
  | terminated
  deriving DecidableEq, Repr, Inhabited

/-- Who is told before each line, with the view of the line before it. What an observer answers
changes nothing. -/
abbrev Observer := View → Except Notice Unit

structure Production where
  graph : Graph
  config : Config
  cast : CastLookup
  entry : Address
  mode : RevealMode
  interval : Duration
  units : Units
  observers : List Observer

structure Playback where
  view : View
  phase : Phase := .ready
  pending : List BranchOption := []
  reveal : Option Reveal := none
  deriving DecidableEq, Repr, Inhabited

structure Request where
  config : Config := {}
  cast : CastLookup := .nobody
  entry : Option Address := none
  mode : RevealMode := .manual
  interval : Option Duration := none
  units : Units := Units.chars
  observers : List Observer := []

namespace Production

/-- Prepares a graph to be played. The entry is the lowest address unless another is asked for, and
has to be in the graph. -/
def prepare (graph : Graph) (request : Request) : Except Fault Production := do
  request.config.validate
  match graph.first? with
  | none => throw .emptyGraph
  | some first =>
    let entry := request.entry.getD first
    if !graph.contains entry then throw (.entryMissing entry)
    return {
      graph := graph
      config := request.config
      cast := request.cast
      entry := entry
      mode := request.mode
      interval := request.interval.getD request.config.revealStep
      units := request.units
      observers := request.observers }

def opening (production : Production) : Playback :=
  { view := { cursor := production.entry } }

end Production

namespace Playback

def isRevealing (playback : Playback) : Bool :=
  playback.reveal.any Reveal.isRunning

def visibleText (production : Production) (playback : Playback) : String :=
  match playback.reveal with
  | some reveal =>
    if reveal.progress.visible < reveal.progress.total then
      production.units.leading playback.view.body reveal.progress.visible
    else playback.view.body
  | none => playback.view.body

end Playback
end Playscript
