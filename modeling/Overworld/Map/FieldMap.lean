import Overworld.Config
import Overworld.Map.Roster
import Overworld.Map.Tiles

/-!
# Field maps

The map that is being played: its tiles, its live events and how far it is
scrolled. Scroll positions are counted in quarters of a pixel.
-/

namespace Overworld

/-- The side of a tile in pixels. -/
def tileSize : Int := 32

/-- The side of a tile in scroll units. -/
def unitsPerTile : Int := 128

/-- A pixel in scroll units. -/
def unitsPerPixel : Int := unitsPerTile / tileSize

/-- A live map. -/
structure FieldMap where
  id : UInt32 := 0
  tileset : Tileset := { id := 0 }
  ground : TileStore := .empty
  events : Roster := .empty
  needRefresh : Bool := false
  displayX : Int := 0
  displayY : Int := 0
  deriving Inhabited

/-- What one tile says about leaving it in a direction. -/
inductive TileVerdict where
  | blocked
  | free
  | undecided
  deriving DecidableEq

/-- A tile blocks the directions of its passage bits, and every direction if all four are set.
Otherwise it decides that the way is free, unless it has a priority. -/
def Tileset.verdict (t : Tileset) (d : Direction) (tile : UInt16) : TileVerdict :=
  let passage := (t.passage tile).toNat
  if passage.testBit d.bitIndex || passage % 16 == 15 then .blocked
  else if t.priority tile = 0 then .free
  else .undecided

/-- The first verdict that decides counts; if none does the way is free. -/
def TileVerdict.settle : List TileVerdict → Bool
  | [] => true
  | .blocked :: _ => false
  | .free :: _ => true
  | .undecided :: rest => settle rest

namespace FieldMap

/-- The width in tiles. -/
def width (m : FieldMap) : Nat := m.ground.width

/-- The height in tiles. -/
def height (m : FieldMap) : Nat := m.ground.height

/-- Whether a place is on the map. -/
def valid (m : FieldMap) (x y : Int) : Bool := m.ground.valid x y

/-- A map without events, all of whose tiles are 0; sides that are too long are cut. -/
def blank (id width height : UInt32) (tileset : Tileset) : FieldMap :=
  { id, tileset, ground := TileStore.ofList width.toNat height.toNat [] }

/-- Sets the tile of a place on a layer; off the map and on other layers nothing is set. -/
def setTile (m : FieldMap) (x y : Int) (layer : Nat) (tile : UInt16) : FieldMap :=
  { m with ground := m.ground.set x y layer tile }

/-- Activates on every event the page that is due. -/
def refresh (m : FieldMap) (switches : SelfSwitches) : FieldMap :=
  { m with
    events := m.events.map (MapEvent.refresh m.id switches) fun _ => rfl
    needRefresh := false }

/-- Refreshes the map if it was asked for. -/
def refreshIfNeeded (m : FieldMap) (switches : SelfSwitches) : FieldMap :=
  if m.needRefresh then m.refresh switches else m

/-- The live map of a record. A tileset that is not among `tilesets` leaves every tile open. -/
def ofRecord (id : UInt32) (r : MapRecord) (tilesets : List Tileset) (switches : SelfSwitches) :
    FieldMap :=
  let map : FieldMap :=
    { id
      tileset := (tilesets.find? (·.id = r.tileset)).getD { id := r.tileset }
      ground := TileStore.ofList r.width.toNat r.height.toNat r.tiles
      events := Roster.ofList (r.events.map MapEvent.ofRecord) }
  map.refresh switches

/-- The tiles consulted about leaving a place: those that obstacles on it show, then those of the
layers, top layer first. -/
def consulted (m : FieldMap) (x y : Int) (self : Option UInt32) : List (Option UInt16) :=
  let obstacles := m.events.toList.filter fun e => some e.id != self && e.isAt x y && !e.through
  obstacles.map (some ·.tile) ++ [2, 1, 0].map (m.ground.get? x y)

/-- Whether the tiles of a place let a character leave it in a direction. The event `self` is not
consulted. -/
def passable (m : FieldMap) (x y : Int) (d : Direction) (self : Option UInt32) : Bool :=
  m.valid x y &&
    TileVerdict.settle ((m.consulted x y self).map (·.elim .blocked (m.tileset.verdict d)))

/-- The scroll position on one axis that shows a tile in the middle of the screen, kept inside
the map. -/
def centered (tile side screen : Int) : Int :=
  let middle := (screen.tdiv 2 - tileSize.tdiv 2) * unitsPerPixel
  let last := (side - screen.tdiv tileSize) * unitsPerTile
  max (min (tile * unitsPerTile - middle) last) 0

/-- Scrolls the map so that a tile is in the middle of the screen. -/
def centerOn (m : FieldMap) (x y : Int) (screen : Screen) : FieldMap :=
  { m with
    displayX := centered x m.width screen.width
    displayY := centered y m.height screen.height }

/-- Erases the event with an id. -/
def erase (m : FieldMap) (id : UInt32) : FieldMap :=
  { m with events := m.events.modify id MapEvent.erase fun _ => rfl }

/-- Moves the event with an id. -/
def place (m : FieldMap) (id : UInt32) (x y : Int) : FieldMap :=
  { m with events := m.events.modify id (MapEvent.place x y) fun _ => rfl }

end FieldMap

end Overworld
