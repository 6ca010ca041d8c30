import Overworld.Collision.Canvas

/-!
# The collision overlay

A layer over the map that shows its collision grid. It owns one viewport with one
tilemap while it is shown and nothing otherwise, also after a failure.
-/

namespace Overworld

/-- The drawing resources that an overlay owns. -/
structure OverlayResources where
  viewport : UInt32
  tilemap : Option UInt32 := none
  deriving DecidableEq, Inhabited

/-- A collision overlay. `generation` is the data generation that its grid was computed from. -/
structure Overlay where
  config : OverlayConfig
  screen : Screen
  canvas : Canvas := {}
  enabled : Bool := false
  resources : Option OverlayResources := none
  grid : Option CollisionGrid := none
  generation : UInt64 := 0
  deriving DecidableEq, Inhabited

namespace Overlay

/-- Releases what the overlay owns. -/
def dispose (o : Overlay) : Overlay :=
  match o.resources with
  | none => { o with grid := none }
  | some resources =>
    let canvas := resources.tilemap.elim o.canvas o.canvas.disposeTilemap
    { o with canvas := canvas.disposeViewport resources.viewport, resources := none, grid := none }

/-- Hides the overlay. -/
def hide (o : Overlay) : Overlay := { o.dispose with enabled := false }

/-- Moves the overlay along with the map, if it is shown. -/
def follow (o : Overlay) (map : FieldMap) : Overlay :=
  match o.enabled, o.resources.bind (·.tilemap) with
  | true, some tilemap =>
    { o with
      canvas := o.canvas.setOrigin tilemap (map.displayX.tdiv unitsPerPixel)
        (map.displayY.tdiv unitsPerPixel) }
  | _, _ => o

/-- The number of tiles that cover a side of the screen, and one more at each end. -/
def tilesAcross (side : Int) : Nat := ((side.tdiv tileSize + 2) % 4294967296).toNat

/-- Allocates resources one after the other and draws the grid of a map. -/
def draw (o : Overlay) (map : FieldMap) (player : Player) :
    Except Fault CollisionGrid × Overlay × Player :=
  let (viewport, canvas) := o.canvas.createViewport
  let o := { o with canvas, resources := some { viewport } }
  match canvas.createTilemap viewport (tilesAcross o.screen.width) (tilesAcross o.screen.height)
      o.config.tileset with
  | .error fault => (.error fault, o, player)
  | .ok (tilemap, canvas) =>
    let o := { o with canvas, resources := some { viewport, tilemap := some tilemap } }
    match playerGrid map player with
    | (.error fault, player) => (.error fault, o, player)
    | (.ok grid, player) =>
      match canvas.bindGrid tilemap grid with
      | .error fault => (.error fault, o, player)
      | .ok canvas =>
        (.ok grid, { o with canvas, grid := some grid, enabled := true }.follow map, player)

/-- Shows the grid of a map, in place of one that is shown already. After a failure the overlay is
hidden. -/
def present (o : Overlay) (map : FieldMap) (player : Player) :
    Except Fault CollisionGrid × Overlay × Player :=
  match o.dispose.draw map player with
  | (.error fault, o, player) => (.error fault, o.hide, player)
  | (.ok grid, o, player) =>
    (.ok grid, { o with enabled := true, canvas := o.canvas.resetFrames }, player)

end Overlay

end Overworld
