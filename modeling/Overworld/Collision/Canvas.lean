import Overworld.Collision.Grid

/-!
# Canvases

The drawing resources of a session without a display: viewports, and tilemaps that
live in them. Every resource gets a fresh number. A canvas can be told to refuse
new tilemaps.
-/

namespace Overworld

/-- A tile surface in a viewport. -/
structure Tilemap where
  viewport : UInt32
  columns : Nat
  rows : Nat
  tileset : String
  origin : Int × Int := (0, 0)
  blockedTiles : Option Nat := none
  deriving DecidableEq, Inhabited

/-- What tilemaps are sorted by. The name ends with a number below those of all characters, so
that a name comes before the longer ones it begins. -/
def Tilemap.sortKey (t : Tilemap) : List Int :=
  [(t.viewport.toNat : Int), t.columns, t.rows] ++ t.tileset.toList.map (fun c => (c.toNat : Int)) ++
    [-1, t.origin.1, t.origin.2, t.blockedTiles.elim (-1) fun n => (n : Int)]

/-- The order of numbers and, where they agree, of the numbers behind them. -/
def Tilemap.keyLe : List Int → List Int → Bool
  | [], _ => true
  | _ :: _, [] => false
  | a :: as, b :: bs => if a = b then keyLe as bs else a < b

/-- The resources that are alive, latest first, and some counts. -/
structure Canvas where
  viewports : List UInt32 := []
  tilemaps : List (UInt32 × Tilemap) := []
  allocations : UInt32 := 0
  frameResets : UInt32 := 0
  refusesTilemaps : Bool := false
  deriving DecidableEq, Inhabited

namespace Canvas

/-- Allocates a viewport. -/
def createViewport (c : Canvas) : UInt32 × Canvas :=
  let id := c.allocations + 1
  (id, { c with allocations := id, viewports := id :: c.viewports })

/-- Allocates a tilemap in a viewport that is alive. -/
def createTilemap (c : Canvas) (viewport : UInt32) (columns rows : Nat) (tileset : String) :
    Except Fault (UInt32 × Canvas) :=
  if c.refusesTilemaps then .error .tilemapRefused
  else if viewport ∈ c.viewports then
    let id := c.allocations + 1
    .ok (id, { c with
      allocations := id
      tilemaps := (id, { viewport, columns, rows, tileset }) :: c.tilemaps })
  else .error (.viewportGone viewport)

/-- Changes a tilemap that is alive. -/
def modify (c : Canvas) (id : UInt32) (f : Tilemap → Tilemap) : Canvas :=
  { c with tilemaps := c.tilemaps.map fun t => if t.1 = id then (t.1, f t.2) else t }

/-- Binds a grid to a tilemap that is alive. -/
def bindGrid (c : Canvas) (id : UInt32) (grid : CollisionGrid) : Except Fault Canvas :=
  if c.tilemaps.any (·.1 = id) then
    .ok (c.modify id fun t => { t with blockedTiles := some grid.blockedTiles })
  else .error (.tilemapGone id)

/-- Scrolls a tilemap to an origin in pixels. -/
def setOrigin (c : Canvas) (id : UInt32) (x y : Int) : Canvas :=
  c.modify id fun t => { t with origin := (x, y) }

/-- Releases a tilemap. -/
def disposeTilemap (c : Canvas) (id : UInt32) : Canvas :=
  { c with tilemaps := c.tilemaps.filter (·.1 ≠ id) }

/-- Releases a viewport. -/
def disposeViewport (c : Canvas) (id : UInt32) : Canvas :=
  { c with viewports := c.viewports.filter (· ≠ id) }

/-- Notes that a long operation has ended, so that no frames need to be made up for. -/
def resetFrames (c : Canvas) : Canvas := { c with frameResets := c.frameResets + 1 }

/-- The number of resources that are alive. -/
def live (c : Canvas) : Nat := c.viewports.length + c.tilemaps.length

/-- The tilemaps that are alive, in an order that does not depend on how they came about. -/
def inventory (c : Canvas) : List Tilemap :=
  (c.tilemaps.map Prod.snd).mergeSort fun a b => Tilemap.keyLe a.sortKey b.sortKey

end Canvas

end Overworld
