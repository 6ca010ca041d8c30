import Overworld.Record.Tables

/-!
# Tile stores

Three layers of tiles over a rectangle. The sides are bounded, so that every place
in the store is a small number, and the store holds exactly the tiles of the
rectangle.
-/

namespace Overworld

/-- The tiles of a map, layer by layer and row by row. -/
structure TileStore where
  width : Nat
  height : Nat
  tiles : Array UInt16
  width_le : width ≤ maxMapSide
  height_le : height ≤ maxMapSide
  size_eq : tiles.size = layerCount * (width * height)

namespace TileStore

/-- The store without tiles. -/
def empty : TileStore where
  width := 0
  height := 0
  tiles := #[]
  width_le := Nat.zero_le _
  height_le := Nat.zero_le _
  size_eq := rfl

instance : Inhabited TileStore := ⟨empty⟩

/-- The first `size` tiles of a list, filled up with tile 0. -/
def fill (size : Nat) (data : List UInt16) : Array UInt16 :=
  data.toArray.take size ++ Array.replicate (size - data.length) 0

theorem size_fill (size : Nat) (data : List UInt16) : (fill size data).size = size := by
  simp [fill]
  omega

/-- A store with these tiles; sides that are too long are cut, tiles that are too many dropped and
missing ones filled in. -/
def ofList (width height : Nat) (data : List UInt16) : TileStore where
  width := min width maxMapSide
  height := min height maxMapSide
  tiles := fill (layerCount * (min width maxMapSide * min height maxMapSide)) data
  width_le := Nat.min_le_right ..
  height_le := Nat.min_le_right ..
  size_eq := size_fill ..

/-- Whether a place is on the map. -/
def valid (s : TileStore) (x y : Int) : Bool :=
  0 ≤ x && x < s.width && 0 ≤ y && y < s.height

/-- Where the tile of a place stands in the store. -/
def index (s : TileStore) (x y layer : Nat) : Nat :=
  layer * (s.width * s.height) + y * s.width + x

/-- The tile of a place on a layer. -/
def get? (s : TileStore) (x y : Int) (layer : Nat) : Option UInt16 :=
  if s.valid x y ∧ layer < layerCount then s.tiles[s.index x.toNat y.toNat layer]? else none

/-- Sets the tile of a place on a layer; off the map and on other layers nothing is set. -/
def set (s : TileStore) (x y : Int) (layer : Nat) (tile : UInt16) : TileStore :=
  if s.valid x y ∧ layer < layerCount then
    { s with
      tiles := s.tiles.setIfInBounds (s.index x.toNat y.toNat layer) tile
      size_eq := by simp [s.size_eq] }
  else s

end TileStore

end Overworld
