import Overworld.Interpreter.Tick
import Overworld.Session.Extension

/-!
# Field sessions

A session is the field context, the plugins and the interpreter of the live map. It
starts with the starting map on screen; the host can change the scene, start events and
reach other events in the way scripts do.
-/

namespace Overworld

/-- A field session whose host has plugins with states `ε`. `frame` counts the updates. -/
structure Session (ε : Type) where
  context : FieldContext
  plugins : List (Extension ε) := []
  interpreter : Interpreter
  pendingTransfer : Option TransferRequest := none
  frame : UInt64 := 0

namespace Session

variable {ε : Type}

/-- The reload watcher, if there is one. -/
def watcher? (s : Session ε) : Option ReloadWatcher := s.plugins.findSome? Extension.watcher?

/-- The collision overlay, if there is one. -/
def overlay? (s : Session ε) : Option Overlay := s.plugins.findSome? Extension.overlay?

/-- What the interpreter reads and writes. -/
def world (s : Session ε) : World :=
  { map := s.context.snapshot.map
    tables := s.context.snapshot.tables
    switches := s.context.switches
    notices := s.context.notices
    transfer := s.pendingTransfer }

/-- The session after the interpreter has changed its world. -/
def setWorld (s : Session ε) (w : World) : Session ε :=
  { s with
    context := { s.context with
      snapshot := { s.context.snapshot with map := w.map }
      switches := w.switches
      notices := w.notices }
    pendingTransfer := w.transfer }

/-- Starts the active page of an event, unless something is running or there is nothing to
execute. -/
def startEvent (s : Session ε) (event : UInt32) : Bool × Session ε :=
  let (started, interpreter) := s.interpreter.setupEvent s.context.snapshot.map event
  (started, { s with interpreter })

/-- Calls an event on top of what is running. -/
def callEvent (s : Session ε) (target : CallTarget) : Except Fault Bool × Session ε :=
  let (result, interpreter) := s.interpreter.call s.context.snapshot.map target
  (result, { s with interpreter })

/-- Sets a self switch of the event with a name. -/
def setSwitchOf (s : Session ε) (name switch : String) (value : Bool) : Session ε :=
  s.setWorld (s.world.setSwitchOf name switch value)

/-- Takes the notices collected so far. -/
def takeNotices (s : Session ε) : NoticeBoard × Session ε :=
  (s.context.notices, { s with context := { s.context with notices := [] } })

section

variable {m : Type → Type} [Monad m] [BitmapLoader m]

/-- Puts a scene on screen. The map is built anew; if that fails the old scene stays. -/
def setScene (s : Session ε) (kind : SceneKind) : m (Except Fault Unit × Session ε) :=
  match kind with
  | .map => do
    let (scene, context) ← s.context.buildScene
    match scene with
    | .error fault => return (.error fault, { s with context })
    | .ok scene => return (.ok (), { s with context := { context with scene := .map scene } })
  | other => return (.ok (), { s with context := { s.context with scene := .other other } })

variable [DataSource m]

/-- Starts a session: loads the starting map and places the player on it. -/
def start (config : FieldConfig) (layout : DataLayout) (debug : Bool) :
    m (Except Fault (Session ε)) := do
  match ← (Snapshot.load layout config.data.startMap {}).run with
  | .error fault => return .error (.during (.startMap config.data.startMap) fault)
  | .ok snapshot =>
    let player : Player := { x := config.data.startX, y := config.data.startY }
    let (scene, bitmaps) ← MapScene.build {} snapshot player
    match scene with
    | .error fault => return .error fault
    | .ok scene =>
      let context : FieldContext :=
        { config, layout, snapshot, player, scene := .map scene, bitmaps, debug }
      return .ok
        { context := context.centerOnPlayer
          interpreter := Interpreter.ofConfig 0 config.interpreter }

variable [Plugin m ε]

/-- Registers a plugin behind the others. -/
def register (s : Session ε) (plugin : Extension ε) : m (Except Fault Unit × Session ε) := do
  let run ← Plugin.register s.plugins plugin s.context
  return (run.result, { s with plugins := run.plugins, context := run.context })

/-- The reload watcher that goes with the settings. -/
def ownWatcher (config : FieldConfig) : ReloadWatcher :=
  { config := config.reload, marker := config.data.markerKind }

/-- The collision overlay that goes with the settings. -/
def ownOverlay (config : FieldConfig) : Overlay :=
  { config := config.overlay, screen := config.screen }

/-- Registers the plugins that every session has of its own. -/
def withOwnPlugins (s : Session ε) : m (Except Fault Unit × Session ε) := do
  match ← s.register (.reload (ownWatcher s.context.config)) with
  | (.error fault, s) => return (.error fault, s)
  | (.ok (), s) => s.register (.overlay (ownOverlay s.context.config))

end

end Session

end Overworld
