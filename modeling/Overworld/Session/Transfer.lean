import Overworld.Session.Basic

/-!
# Transfers

Sending the player to a place on this or on another map. The plugins are told first,
while the old map is still loaded; then the new map is loaded, the player is placed and
the scene of the map is built anew if it is on screen.
-/

namespace Overworld

namespace FieldContext

/-- Places the player and scrolls the map to it. -/
def placePlayer (c : FieldContext) (x y : Int) : FieldContext :=
  { c with player := c.player.moveTo x y }.centerOnPlayer

/-- Replaces the live map by that of a record. -/
def enterMap (c : FieldContext) (id : UInt32) (record : MapRecord) : FieldContext :=
  c.setMap (FieldMap.ofRecord id record c.snapshot.tables.tilesets c.switches)

end FieldContext

namespace Session

variable {ε : Type} {m : Type → Type} [Monad m] [BitmapLoader m] [DataSource m] [Plugin m ε]

/-- Places the player on the map that is loaded by now, and ends a transfer that started on the
map `source`. -/
def arrive (s : Session ε) (source target : UInt32) (x y : Int) :
    m (Except Fault Unit × Session ε) := do
  let s := { s with context := s.context.placePlayer x y }
  let (result, s) ← if s.context.scene.isMap then s.setScene .map else pure (.ok (), s)
  match result with
  | .error fault => return (.error fault, s)
  | .ok () =>
    return (.ok (), { s with context := s.context.notify (.mapTransferred source target x y) })

/-- Sends the player to a place on a map. -/
def transfer (s : Session ε) (target : UInt32) (x y : Int) :
    m (Except Fault Unit × Session ε) := do
  let source := s.context.mapId
  let run ← Plugin.transferAll s.plugins source target s.context
  let s := { s with plugins := run.plugins, context := run.context }
  match run.result with
  | .error fault => return (.error fault, s)
  | .ok () =>
    if target = source then s.arrive source target x y
    else
      match ← (loadMap s.context.layout target).run with
      | .error fault => return (.error fault, s)
      | .ok record =>
        let s := { s with context := s.context.enterMap target record }
        s.arrive source target x y

end Session

end Overworld
