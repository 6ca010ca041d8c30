import Overworld.Data.Fingerprint
import Overworld.Reload.Probe
import Overworld.Session.Plugin

/-!
# The reload watcher

The editor rewrites the files of the data set one after the other. The watcher looks at
the modification time of one marker table; once it has moved, the watcher waits for a
short while and loads a complete snapshot beside the running one. With confirmation on,
the data set is fingerprinted before and after the load, and a difference throws the new
snapshot away. Nothing of the running session changes before the new snapshot and its
scene are complete.
-/

namespace Overworld

/-- Whether a reload is under way. -/
inductive ReloadPhase where
  | idle
  | reloading
  deriving DecidableEq, Inhabited

/-- The name of a phase. -/
def ReloadPhase.label : ReloadPhase → String
  | .idle => "Idle"
  | .reloading => "Reloading"

/-- What a tick of the watcher did. -/
inductive ReloadOutcome where
  | unchanged
  /-- There is a change, but the map is not on screen. -/
  | deferred
  /-- The data set moved during the load; the next tick tries again. -/
  | rejected
  | committed
  deriving DecidableEq, Inhabited

/-- The name of an outcome. -/
def ReloadOutcome.label : ReloadOutcome → String
  | .unchanged => "Unchanged"
  | .deferred => "Deferred"
  | .rejected => "Rejected"
  | .committed => "Committed"

/-- A watcher. `baseline` is the marker's time that the running data goes with, `failed` one whose
load failed and is not tried again, and `retry` asks the next tick to look in any case. -/
structure ReloadWatcher where
  config : ReloadConfig
  marker : TableKind
  phase : ReloadPhase := .idle
  baseline : Option Stamp := none
  failed : Option Stamp := none
  retry : Bool := false
  probe : ChangeProbe := .poll
  reloads : UInt32 := 0
  deriving DecidableEq, Inhabited

/-- What a tick of a watcher leads to. -/
structure ReloadTick where
  result : Except Fault ReloadOutcome
  watcher : ReloadWatcher
  context : FieldContext

namespace ReloadWatcher

/-- The label that the scene has in faults. -/
def sceneLabel : String := "Scene"

/-- Throws a loaded data set away, to be tried again. -/
def reject (w : ReloadWatcher) (c : FieldContext) (reason : String) : ReloadTick :=
  { result := .ok .rejected, watcher := { w with retry := true }
    context := c.notify (.reloadRejected reason) }

/-- Throws a data set away because of a file that could not be read. -/
def rejectUnreadable (w : ReloadWatcher) (c : FieldContext) (fault : Fault) : ReloadTick :=
  w.reject c ("data set unreadable: " ++ fault.describe)

/-- Gives up on a modification time. -/
def abandon (w : ReloadWatcher) (c : FieldContext) (seen : Stamp) (fault : Fault) : ReloadTick :=
  { result := .error fault, watcher := { w with failed := some seen, retry := false }
    context := c.notify (.reloadRejected fault.message) }

section

variable {m : Type → Type} [Monad m] [DataSource m]

/-- Takes the marker's present time as the one that the running data goes with. -/
def arm (w : ReloadWatcher) (layout : DataLayout) : m (Except Fault Unit × ReloadWatcher) := do
  match ← DataSource.modified (layout.tablePath w.marker) with
  | .ok seen => return (.ok (), { w with baseline := some seen, failed := none, retry := false })
  | .error fault => return (.error fault, w)

/-- The fingerprint of the data set, if confirmation is on. -/
def checkpoint (w : ReloadWatcher) (c : FieldContext) : m (Except Fault (Option Fingerprint)) :=
  if w.config.confirmFingerprint then do
    return (← (fingerprint c.layout c.mapId).run).map some
  else return .ok none

variable [BitmapLoader m]

/-- Builds the scene of a new snapshot and then puts both in place. -/
def commit (w : ReloadWatcher) (c : FieldContext) (seen : Stamp) (snapshot : Snapshot) :
    m ReloadTick := do
  let snapshot := { snapshot with
    map := snapshot.map.centerOn c.player.x c.player.y c.config.screen }
  let (scene, bitmaps) ← MapScene.build c.bitmaps.clear snapshot c.player
  match scene with
  | .error fault =>
    let fault := Fault.corrupt sceneLabel (c.layout.mapPath c.mapId) fault
    return w.abandon { c with bitmaps } seen fault
  | .ok scene =>
    let context := { c with
      snapshot, bitmaps, scene := .map scene, generation := c.generation + 1 }
    return {
      result := .ok .committed
      watcher := { w with
        baseline := some seen, failed := none, retry := false, reloads := w.reloads + 1 }
      context := context.notify (.reloadCommitted c.mapId) }

/-- Loads the data set that goes with a modification time of the marker. -/
def reload (w : ReloadWatcher) (c : FieldContext) (seen : Stamp) : m ReloadTick := do
  DataSource.pause w.config.graceMs
  match ← w.checkpoint c with
  | .error fault => return w.rejectUnreadable c fault
  | .ok before =>
    match ← (Snapshot.load c.layout c.mapId c.switches).run with
    | .error fault => return w.abandon c seen fault
    | .ok snapshot =>
      match ← w.checkpoint c with
      | .error fault => return w.rejectUnreadable c fault
      | .ok after =>
        if after = before then w.commit c seen snapshot
        else return w.reject c "data changed while loading"

/-- Acts on a modification time of the marker. -/
def react (w : ReloadWatcher) (c : FieldContext) (seen : Stamp) : m ReloadTick :=
  match w.baseline with
  | none =>
    return { result := .ok .unchanged, watcher := { w with baseline := some seen, retry := false }
             context := c }
  | some baseline =>
    if seen = baseline ∨ some seen = w.failed then
      return { result := .ok .unchanged, watcher := { w with retry := false }, context := c }
    else if c.scene.isMap then do
      let tick ← { w with phase := .reloading }.reload c seen
      return { tick with watcher := { tick.watcher with phase := .idle } }
    else return { result := .ok .deferred, watcher := { w with retry := true }, context := c }

/-- Looks for a change and reloads if there is one. A marker that cannot be looked at is being
replaced, most likely, and is looked at again in the next tick. -/
def tick (w : ReloadWatcher) (c : FieldContext) : m ReloadTick := do
  let unchanged : ReloadTick := { result := .ok .unchanged, watcher := w, context := c }
  if !w.config.enabled then return unchanged
  let looks ← w.probe.shouldLook
  if !looks && !w.retry then return unchanged
  match ← DataSource.modified (c.layout.tablePath w.marker) with
  | .error _ => return { unchanged with watcher := { w with retry := true } }
  | .ok seen => w.react c seen

/-- Registration: the watcher starts to observe and takes the marker's present time. If that time
cannot be had, the first tick that can have it takes it. -/
def onBuild (w : ReloadWatcher) (c : FieldContext) : m (Hooked ReloadWatcher) := do
  let probe ← ChangeProbe.ofMode w.config.watchMode c.layout.watchRoot
  let (_, w) ← { w with probe }.arm c.layout
  return { plugin := w, context := c }

/-- The frame hook. -/
def onUpdate (w : ReloadWatcher) (c : FieldContext) : m (Hooked ReloadWatcher) := do
  let tick ← w.tick c
  return { result := tick.result.map fun _ => (), plugin := tick.watcher, context := tick.context }

end

end ReloadWatcher

end Overworld
