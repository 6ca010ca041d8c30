import Overworld.Collision.Overlay
import Overworld.Session.Plugin

/-!
# The overlay in a session

In debug mode a button shows and hides the collision overlay. While it is shown it is
computed anew after every reload, and a transfer hides it. The host is told of every
change.
-/

namespace Overworld

namespace Overlay

/-- Shows the grid of the live map. -/
def presentCurrent (o : Overlay) (c : FieldContext) : Hooked Overlay :=
  match o.present c.snapshot.map c.player with
  | (.error fault, o, player) => { result := .error fault, plugin := o, context := { c with player } }
  | (.ok grid, o, player) =>
    { plugin := { o with generation := c.generation }
      context := { c with player }.notify (.overlayShown c.mapId grid.blockedTiles) }

/-- Hides the overlay if it is shown, and otherwise shows it. -/
def toggle (o : Overlay) (c : FieldContext) : Hooked Overlay :=
  if o.enabled then { plugin := o.hide, context := c.notify .overlayHidden }
  else o.presentCurrent c

/-- What the frame hook changes about what is shown. -/
def react (o : Overlay) (input : Input) (c : FieldContext) : Hooked Overlay :=
  if input.trigger .debugOverlay then o.toggle c
  else if o.enabled && o.generation != c.generation then o.presentCurrent c
  else { plugin := o, context := c }

/-- The frame hook. Outside debug mode and off the map it does nothing. -/
def onUpdate (o : Overlay) (input : Input) (c : FieldContext) : Hooked Overlay :=
  if c.debug && c.scene.isMap then
    let hooked := o.react input c
    match hooked.result with
    | .error _ => hooked
    | .ok () => { hooked with plugin := hooked.plugin.follow hooked.context.snapshot.map }
  else { plugin := o, context := c }

/-- The transfer hook. -/
def onTransfer (o : Overlay) (c : FieldContext) : Hooked Overlay :=
  { plugin := o.hide, context := if o.enabled then c.notify .overlayHidden else c }

end Overlay

end Overworld
