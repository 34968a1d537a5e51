import Playscript.AutoPlay
import Playscript.Cast
import Playscript.Cast.Directory
import Playscript.Cast.Reading
import Playscript.CommandLine.Arguments
import Playscript.CommandLine.Running
import Playscript.Config
import Playscript.Config.Reading
import Playscript.Config.Tags
import Playscript.Disk
import Playscript.Duration
import Playscript.Fault
import Playscript.Graph
import Playscript.History
import Playscript.Json.Fields
import Playscript.Json.Numeral
import Playscript.Json.Quoted
import Playscript.Json.Value
import Playscript.LineKind
import Playscript.Main
import Playscript.Playback.State
import Playscript.Playback.Step
import Playscript.Player.Boundary
import Playscript.Player.LineMode
import Playscript.Player.Loading
import Playscript.Player.Session
import Playscript.Player.Transcript
import Playscript.Record
import Playscript.Reveal
import Playscript.Reveal.Race
import Playscript.Screen.Keys
import Playscript.Screen.Loop
import Playscript.Screen.Picture
import Playscript.Screen.State
import Playscript.Screen.Terminal
import Playscript.Table.Report
import Playscript.Table.Row
import Playscript.Table.Rows
import Playscript.Text.Blank
import Playscript.Text.ByteIndex
import Playscript.Text.Cell
import Playscript.Text.Cell.Tables
import Playscript.Text.CharLiteral
import Playscript.Text.Cluster
import Playscript.Text.Cluster.Tables
import Playscript.Text.FileName
import Playscript.Text.Integer
import Playscript.Text.Ranges
import Playscript.Text.Split
import Playscript.Text.UpperCase
import Playscript.Text.Utf8
import Playscript.Units
import Playscript.Proofs.Text.Strip
import Playscript.Proofs.Text.UpperCase
import Playscript.Proofs.Graph.Lookup
import Playscript.Proofs.Table.Playable
import Playscript.Proofs.Playback.Advance
import Playscript.Proofs.Playback.Run
import Playscript.Proofs.Playback.Menu
import Playscript.Proofs.Playback.Failure
import Playscript.Proofs.Cast
import Playscript.Proofs.Playback.View
import Playscript.Proofs.Playback.Course
import Playscript.Proofs.Playback.Navigation
import Playscript.Proofs.Playback.Walk
import Playscript.Proofs.Config
import Playscript.Proofs.Player.Boundary
import Playscript.Proofs.Text.Integer
import Playscript.Proofs.Text.Split
import Playscript.Proofs.Table.Rows
import Playscript.Proofs.Table.Written
import Playscript.Proofs.Text.Utf8
import Playscript.Proofs.Player.Drive
import Playscript.Proofs.Player.Staging
import Playscript.Proofs.Player.LineMode
import Playscript.Proofs.Graph.Insert
import Playscript.Proofs.Table.Account
import Playscript.Proofs.Player.Setback
import Playscript.Proofs.Player.Loading
import Playscript.Proofs.CommandLine.Check
import Playscript.Proofs.Playback.Rest
import Playscript.Proofs.Screen.Keys
import Playscript.Proofs.Screen.Watch
import Playscript.Proofs.Screen.Patience
import Playscript.Proofs.Screen.Selection
import Playscript.Proofs.Screen.Menu
import Playscript.Proofs.Playback.Events
import Playscript.Proofs.Playback.Surface
import Playscript.Proofs.Playback.Chronicle
import Playscript.Proofs.Player.Chronicle
import Playscript.Proofs.Playback.Observers
import Playscript.Proofs.Json.Quoted
import Playscript.Proofs.Player.Transcript
import Playscript.Proofs.CommandLine.Output
import Playscript.Proofs.Playback.Restart
import Playscript.Proofs.Cast.Directory
import Playscript.Proofs.Playback.Portrait
import Playscript.Proofs.Player.LineLoop
import Playscript.Proofs.Player.LineOrder
import Playscript.Proofs.Player.LineRestart
import Playscript.Proofs.Reveal.Race
import Playscript.Proofs.Playback.Collection
import Playscript.Proofs.Playback.Choice
import Playscript.Proofs.Duration
import Playscript.Proofs.AutoPlay
import Playscript.Proofs.Screen.Hold
import Playscript.Proofs.Screen.OwnHold
import Playscript.Proofs.Playback.Ending
import Playscript.Proofs.Playback.Canvas
import Playscript.Proofs.Playback.VisibleText
import Playscript.Proofs.Table.Grammar
import Playscript.Proofs.Reveal.ByHand
import Playscript.Proofs.AutoPlay.Hold
import Playscript.Proofs.Text.Stretch
import Playscript.Proofs.Table.Examined
import Playscript.Proofs.Table.LineEnds
import Playscript.Proofs.History
import Playscript.Proofs.Screen.Wrapping
import Playscript.Proofs.Screen.Layout
import Playscript.Proofs.Text.FileName
import Playscript.Proofs.Cast.Depiction
import Playscript.Proofs.Cast.Walk
import Playscript.Proofs.Text.ByteIndex
import Playscript.Proofs.Units
import Playscript.Proofs.Graph.Insertions
import Playscript.Proofs.Graph.Dangling
