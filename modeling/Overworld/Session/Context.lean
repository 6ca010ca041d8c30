import Overworld.Config
import Overworld.Notice
import Overworld.Scene

/-!
# The field context

Everything that a field session owns besides its interpreter and its plugins: the
settings, the loaded data, the player, the scene on screen and the notices. It is lent
to the plugins every frame.
-/

namespace Overworld

/-- What a field session owns. `generation` counts the reloads that have taken effect. -/
structure FieldContext where
  config : FieldConfig := {}
  layout : DataLayout
  snapshot : Snapshot := {}
  switches : SelfSwitches := {}
  player : Player := {}
  scene : ActiveScene
  bitmaps : BitmapCache := {}
  notices : NoticeBoard := []
  debug : Bool := false
  generation : UInt64 := 0

namespace FieldContext

/-- The id of the live map. -/
def mapId (c : FieldContext) : UInt32 := c.snapshot.map.id

/-- Adds a notice. -/
def notify (c : FieldContext) (notice : Notice) : FieldContext :=
  { c with notices := c.notices ++ [notice] }

/-- Replaces the live map. -/
def setMap (c : FieldContext) (map : FieldMap) : FieldContext :=
  { c with snapshot := { c.snapshot with map } }

/-- Scrolls the map so that the player is in the middle of the screen. -/
def centerOnPlayer (c : FieldContext) : FieldContext :=
  c.setMap (c.snapshot.map.centerOn c.player.x c.player.y c.config.screen)

/-- Refreshes the map if it was asked for. -/
def refreshIfNeeded (c : FieldContext) : FieldContext :=
  c.setMap (c.snapshot.map.refreshIfNeeded c.switches)

/-- Builds the scene of the live map. -/
def buildScene {m : Type → Type} [Monad m] [BitmapLoader m] (c : FieldContext) :
    m (Except Fault MapScene × FieldContext) := do
  let (scene, bitmaps) ← MapScene.build c.bitmaps c.snapshot c.player
  return (scene, { c with bitmaps })

end FieldContext

end Overworld
