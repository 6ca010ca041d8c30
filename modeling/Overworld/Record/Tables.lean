import Overworld.Record.Event

/-!
# Records of the data tables

Tilesets, common events and maps as their data files have them.
-/

namespace Overworld

/-- A tileset. Passages and priorities are listed by tile; the low four bits of a passage are the
directions in which the tile cannot be left. -/
structure Tileset where
  id : UInt32
  name : String := ""
  graphic : String := ""
  passages : List UInt8 := []
  priorities : List UInt8 := []
  deriving DecidableEq, Inhabited

/-- The passage of a tile; tiles that are not listed are open. -/
def Tileset.passage (t : Tileset) (tile : UInt16) : UInt8 := t.passages.getD tile.toNat 0

/-- The priority of a tile; tiles that are not listed have none. -/
def Tileset.priority (t : Tileset) (tile : UInt16) : UInt8 := t.priorities.getD tile.toNat 0

/-- Tilesets in data files. -/
def Tileset.shape : Json.Shape Tileset :=
  Json.Shape.record { id := 0 }
    [.of "id" true .uint32 fun t v => { t with id := v },
     .of "name" false .text fun t v => { t with name := v },
     .of "tileset_name" false .text fun t v => { t with graphic := v },
     .of "passages" false (.list .uint8) fun t v => { t with passages := v },
     .of "priorities" false (.list .uint8) fun t v => { t with priorities := v }]

/-- The tileset as a JSON value. -/
def Tileset.toJson (t : Tileset) : Json :=
  .obj [("id", .nat t.id.toNat), ("name", .str t.name),
    ("passages", .arr (t.passages.map fun b => .nat b.toNat)),
    ("priorities", .arr (t.priorities.map fun b => .nat b.toNat)),
    ("tileset_name", .str t.graphic)]

/-- A list of instructions that any event may call. -/
structure CommonEvent where
  id : UInt32
  name : String := ""
  list : List Instruction := []
  deriving Inhabited

/-- Common events in data files. -/
def CommonEvent.shape : Json.Shape CommonEvent :=
  Json.Shape.record { id := 0 }
    [.of "id" true .uint32 fun c v => { c with id := v },
     .of "name" false .text fun c v => { c with name := v },
     .of "list" false (.list Instruction.shape) fun c v => { c with list := v }]

/-- The common event as a JSON value. -/
def CommonEvent.toJson (c : CommonEvent) : Json :=
  .obj [("id", .nat c.id.toNat), ("list", .arr (c.list.map Instruction.toJson)),
    ("name", .str c.name)]

/-- The number of tile layers. -/
def layerCount : Nat := 3

/-- The greatest width and height of a map. -/
def maxMapSide : Nat := 2048

/-- A map as written, with its layers one after the other, row by row. -/
structure MapRecord where
  tileset : UInt32 := 0
  width : UInt32
  height : UInt32
  tiles : List UInt16 := []
  events : List EventRecord := []
  deriving Inhabited

/-- Maps in data files. -/
def MapRecord.shape : Json.Shape MapRecord :=
  Json.Shape.record { width := 0, height := 0 }
    [.of "tileset_id" false .uint32 fun m v => { m with tileset := v },
     .of "width" true .uint32 fun m v => { m with width := v },
     .of "height" true .uint32 fun m v => { m with height := v },
     .of "data" false (.list .uint16) fun m v => { m with tiles := v },
     .of "events" false (.list EventRecord.shape) fun m v => { m with events := v }]

/-- The map as a JSON value. -/
def MapRecord.toJson (m : MapRecord) : Json :=
  .obj [("data", .arr (m.tiles.map fun t => .nat t.toNat)),
    ("events", .arr (m.events.map EventRecord.toJson)), ("height", .nat m.height.toNat),
    ("tileset_id", .nat m.tileset.toNat), ("width", .nat m.width.toNat)]

/-- Whether neither side of the map is too long. -/
def MapRecord.fits (m : MapRecord) : Bool :=
  m.width.toNat ≤ maxMapSide && m.height.toNat ≤ maxMapSide

/-- The number of tiles on all layers of a map that is not too large. -/
def MapRecord.tileCount? (m : MapRecord) : Option Nat :=
  if m.fits then some (m.width.toNat * m.height.toNat * layerCount) else none

end Overworld
