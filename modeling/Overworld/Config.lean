import Overworld.Json.Shape
import Overworld.Data.Table

/-!
# Settings

The settings of a field session and how their file is read. Every setting has a
default, but a screen that is given needs both its sides.
-/

namespace Overworld

/-- The size of the screen in pixels. -/
structure Screen where
  width : Int := 640
  height : Int := 480
  deriving DecidableEq, Inhabited

/-- Where the data set is and where the player starts. -/
structure DataConfig where
  root : FilePath := ⟨"Data"⟩
  markerTable : String := "Actors"
  startMap : UInt32 := 1
  startX : Int := 0
  startY : Int := 0
  deriving DecidableEq, Inhabited

/-- The table whose modification time shows that the data set was saved. -/
def DataConfig.markerKind (c : DataConfig) : TableKind :=
  (TableKind.ofLabel? c.markerTable).getD .actors

/-- How changes of the data set are noticed. -/
inductive WatchMode where
  | poll
  | notify
  deriving DecidableEq, Inhabited

/-- The name of a watch mode. -/
def WatchMode.label : WatchMode → String
  | .poll => "poll"
  | .notify => "notify"

/-- Live reload. -/
structure ReloadConfig where
  enabled : Bool := true
  graceMs : Nat := 100
  confirmFingerprint : Bool := true
  watchMode : WatchMode := .poll
  deriving DecidableEq, Inhabited

/-- Bounds of the command interpreter. -/
structure InterpreterConfig where
  maxDepth : UInt32 := 100
  commandsPerTick : Nat := 1000
  deriving DecidableEq, Inhabited

/-- The collision overlay. -/
structure OverlayConfig where
  tileset : String := "debug_collision"
  z : Int := 999
  deriving DecidableEq, Inhabited

/-- Debug mode: forced on or off, or decided by a marker file. -/
structure DebugConfig where
  enabled : Option Bool := none
  markerFile : String := "debug_tester.dat"
  deriving DecidableEq, Inhabited

/-- All settings. -/
structure FieldConfig where
  data : DataConfig := {}
  reload : ReloadConfig := {}
  interpreter : InterpreterConfig := {}
  screen : Screen := {}
  overlay : OverlayConfig := {}
  debug : DebugConfig := {}
  deriving DecidableEq, Inhabited

open Json

/-- Whole numbers of 32 bits with a sign. -/
def Screen.side : Shape Int := Shape.whole (-2147483648) 2147483647

/-- Screens in settings files. -/
def Screen.shape : Shape Screen :=
  Shape.record {}
    [.of "width" true Screen.side fun s v => { s with width := v },
     .of "height" true Screen.side fun s v => { s with height := v }]

/-- Data settings in settings files. -/
def DataConfig.shape : Shape DataConfig :=
  Shape.record {}
    [.of "root" false .text fun c v => { c with root := ⟨v⟩ },
     .of "marker_table" false .text fun c v => { c with markerTable := v },
     .of "start_map" false .uint32 fun c v => { c with startMap := v },
     .of "start_x" false Screen.side fun c v => { c with startX := v },
     .of "start_y" false Screen.side fun c v => { c with startY := v }]

/-- Reload settings in settings files. -/
def ReloadConfig.shape : Shape ReloadConfig :=
  Shape.record {}
    [.of "enabled" false .bool fun c v => { c with enabled := v },
     .of "grace_ms" false (.natBelow UInt64.size) fun c v => { c with graceMs := v },
     .of "confirm_fingerprint" false .bool fun c v => { c with confirmFingerprint := v },
     .of "watch_mode" false (.choice [("poll", .poll), ("notify", .notify)])
      fun c v => { c with watchMode := v }]

/-- Interpreter settings in settings files. -/
def InterpreterConfig.shape : Shape InterpreterConfig :=
  Shape.record {}
    [.of "max_depth" false .uint32 fun c v => { c with maxDepth := v },
     .of "commands_per_tick" false (.natBelow UInt32.size) fun c v => { c with commandsPerTick := v }]

/-- Overlay settings in settings files. -/
def OverlayConfig.shape : Shape OverlayConfig :=
  Shape.record {}
    [.of "tileset" false .text fun c v => { c with tileset := v },
     .of "z" false Screen.side fun c v => { c with z := v }]

/-- Debug settings in settings files. -/
def DebugConfig.shape : Shape DebugConfig :=
  Shape.record {}
    [.of "enabled" false (.optional .bool) fun c v => { c with enabled := v },
     .of "marker_file" false .text fun c v => { c with markerFile := v }]

/-- Settings files. -/
def FieldConfig.shape : Shape FieldConfig :=
  Shape.record {}
    [.of "data" false DataConfig.shape fun c v => { c with data := v },
     .of "reload" false ReloadConfig.shape fun c v => { c with reload := v },
     .of "interpreter" false InterpreterConfig.shape fun c v => { c with interpreter := v },
     .of "screen" false Screen.shape fun c v => { c with screen := v },
     .of "overlay" false OverlayConfig.shape fun c v => { c with overlay := v },
     .of "debug" false DebugConfig.shape fun c v => { c with debug := v }]

/-- Settings given beside the file, which win over it. -/
structure ConfigOverrides where
  dataRoot : Option FilePath := none
  graceMs : Option Nat := none
  maxDepth : Option UInt32 := none
  debug : Option Bool := none
  deriving DecidableEq, Inhabited

/-- Whether nothing is overridden. -/
def ConfigOverrides.isEmpty (o : ConfigOverrides) : Bool :=
  o.dataRoot.isNone && o.graceMs.isNone && o.maxDepth.isNone && o.debug.isNone

/-- The names of the overridden settings. -/
def ConfigOverrides.applied (o : ConfigOverrides) : List String :=
  (if o.dataRoot.isSome then ["data"] else []) ++ (if o.graceMs.isSome then ["grace_ms"] else []) ++
    (if o.maxDepth.isSome then ["max_depth"] else []) ++ (if o.debug.isSome then ["debug"] else [])

/-- The settings with the overrides put in. -/
def FieldConfig.override (c : FieldConfig) (o : ConfigOverrides) : FieldConfig :=
  { c with
    data := { c.data with root := o.dataRoot.getD c.data.root }
    reload := { c.reload with graceMs := o.graceMs.getD c.reload.graceMs }
    interpreter := { c.interpreter with maxDepth := o.maxDepth.getD c.interpreter.maxDepth }
    debug := { c.debug with enabled := o.debug.orElse fun _ => c.debug.enabled } }

end Overworld
