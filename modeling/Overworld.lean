import Overworld.Bitmap
import Overworld.Collision.Canvas
import Overworld.Collision.Grid
import Overworld.Collision.Overlay
import Overworld.Collision.Report
import Overworld.Collision.Toggle
import Overworld.CommandLine
import Overworld.Config
import Overworld.ConfigFile
import Overworld.Data.FileTree
import Overworld.Data.Fingerprint
import Overworld.Data.Snapshot
import Overworld.Data.Source
import Overworld.Data.Table
import Overworld.Data.Tables
import Overworld.DebugMode
import Overworld.Decimal
import Overworld.Digest.Blake3
import Overworld.Direction
import Overworld.Fault
import Overworld.Input.Bindings
import Overworld.Input.Button
import Overworld.Input.State
import Overworld.Interpreter.Command
import Overworld.Interpreter.Frame
import Overworld.Interpreter.Script
import Overworld.Interpreter.Target
import Overworld.Interpreter.Tick
import Overworld.Interpreter.World
import Overworld.Json.Document
import Overworld.Json.Draft
import Overworld.Json.Number
import Overworld.Json.Shape
import Overworld.Json.Token
import Overworld.Json.Value
import Overworld.Json.Writer
import Overworld.Main
import Overworld.Map.Event
import Overworld.Map.FieldMap
import Overworld.Map.Player
import Overworld.Map.Roster
import Overworld.Map.Tiles
import Overworld.Notice
import Overworld.Proofs.Reload.AllOrNothing
import Overworld.Proofs.Reload.Exits
import Overworld.Proofs.Surroundings
import Overworld.Record.Event
import Overworld.Record.Instruction
import Overworld.Record.Tables
import Overworld.Reload.Probe
import Overworld.Reload.Watcher
import Overworld.Scene
import Overworld.Script.Failure
import Overworld.Script.Grammar
import Overworld.Script.Machine
import Overworld.Script.Operation
import Overworld.Script.Program
import Overworld.Script.Reader
import Overworld.Script.Refusal
import Overworld.Script.Run
import Overworld.Script.Scan
import Overworld.Script.Simplify
import Overworld.Script.Subset
import Overworld.Script.Token
import Overworld.Script.Value
import Overworld.SelfSwitches
import Overworld.Session.Basic
import Overworld.Session.Context
import Overworld.Session.Extension
import Overworld.Session.Plugin
import Overworld.Session.Run
import Overworld.Session.Transfer
import Overworld.Session.Update
import Overworld.Text.Blank
import Overworld.Text.FilePath
import Overworld.Text.Integer
import Overworld.Proofs.Script.HostSteps
import Overworld.Proofs.Interpreter.Effects
import Overworld.Proofs.Interpreter.Loop
import Overworld.Proofs.Interpreter.Owners
import Overworld.Proofs.Interpreter.Pacing
import Overworld.Proofs.Interpreter.Suspension
import Overworld.Proofs.Map.Pages
import Overworld.Proofs.Session.Hooks
import Overworld.Proofs.Session.PageRefresh
import Overworld.Proofs.Interpreter.MapChange
import Overworld.Proofs.Data.Chronicle
import Overworld.Proofs.Reload.MovingFiles
import Overworld.Proofs.Collision.Survey
import Overworld.Proofs.Collision.Movement
import Overworld.Proofs.Collision.Ownership
import Overworld.Proofs.Session.Parts
import Overworld.Proofs.Session.SwitchNotices
import Overworld.Proofs.Data.SettledFiles
import Overworld.Proofs.Reload.LastSave
import Overworld.Proofs.Interpreter.RunningLists
import Overworld.Proofs.Collision.Showing
import Overworld.Proofs.Session.Transfers
import Overworld.Proofs.Session.OwnFrames
import Overworld.Proofs.Session.Course
import Overworld.Proofs.Session.ShownGrid
import Overworld.Proofs.Session.OverlayNotices
import Overworld.Proofs.Session.ShownOverlay
import Overworld.Proofs.Session.DebugButtons
import Overworld.Proofs.Interpreter.TransferSlot
import Overworld.Proofs.Session.RequestedTransfers
import Overworld.Proofs.Json.Kept
import Overworld.Proofs.Json.RoundTrip
import Overworld.Proofs.Record.RoundTrip
import Overworld.Proofs.Session.Clock
import Overworld.Proofs.Session.StartUpSaves
import Overworld.Proofs.Interpreter.Budget
import Overworld.Proofs.Interpreter.Cancellation
import Overworld.Proofs.Interpreter.Calls
import Overworld.Proofs.Script.Endings
import Overworld.Proofs.Script.Requests
import Overworld.Proofs.Interpreter.ScriptOutcome
import Overworld.Proofs.Interpreter.ScriptRequests
import Overworld.Proofs.Interpreter.Footprint
import Overworld.Proofs.Interpreter.Outcomes
import Overworld.Proofs.Interpreter.Waits
import Overworld.Proofs.Map.NamedSwitches
import Overworld.Proofs.Map.SetUp
import Overworld.Proofs.Collision.Questions
import Overworld.Proofs.Collision.Walls
import Overworld.Proofs.Map.Refreshes
import Overworld.Proofs.Map.TileSlots
import Overworld.Proofs.Map.TileEvents
import Overworld.Proofs.Collision.TightenedTilesets
import Overworld.Proofs.Map.Scrolling
import Overworld.Proofs.Bitmap.History
import Overworld.Proofs.Bitmap.Transparency
import Overworld.Proofs.Input.SharedButtons
import Overworld.Proofs.Session.EveryHook
import Overworld.Proofs.Data.FirstFlaw
import Overworld.Proofs.Interpreter.ScriptBlocks
import Overworld.Proofs.Interpreter.FoldedScripts
import Overworld.Proofs.CommandLine.LaterFlags
import Overworld.Proofs.Data.Separation
import Overworld.Proofs.Collision.GridText
import Overworld.Proofs.Interpreter.FormOnly
