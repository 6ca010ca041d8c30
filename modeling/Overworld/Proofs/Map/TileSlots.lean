import Overworld.Map.FieldMap

/-!
# Tile slots

A map has a slot for each of its places on each of three layers, and no others. The flat store
behind them keeps the slots apart: a write to one of them is read back there and nowhere else. Its
places are small numbers, so they can be computed in words of 32 bits.
-/

namespace Overworld

/-- A place of a map on one of the layers. -/
def TileStore.HasSlot (s : TileStore) (x y : Int) (layer : Nat) : Prop :=
  (0 ≤ x ∧ x < s.width ∧ 0 ≤ y ∧ y < s.height) ∧ layer < layerCount

/-- Where a tile stands in the store, computed in words: within a layer with 32 bits and a sign, and
across the layers with 64 bits. -/
def TileStore.wordIndex (s : TileStore) (x y : Int32) (layer : UInt64) : UInt64 :=
  let width := Int32.ofNat s.width
  let height := Int32.ofNat s.height
  (x + y * width).toInt64.toUInt64 + layer * (width * height).toInt64.toUInt64

/-- A number that a word of 32 bits with a sign can hold. -/
def FitsWord (n : Int) : Prop := Int32.minValue.toInt ≤ n ∧ n ≤ Int32.maxValue.toInt

/-- A write of a tile. -/
structure TileWrite where
  x : Int
  y : Int
  layer : Nat
  tile : UInt16
  deriving DecidableEq

/-- The write goes to this slot. -/
def TileWrite.goesTo (w : TileWrite) (x y : Int) (layer : Nat) : Bool :=
  w.x == x && w.y == y && w.layer == layer

/-- The tile of the last write to a slot. -/
def lastWritten (writes : List TileWrite) (x y : Int) (layer : Nat) : Option UInt16 :=
  (writes.reverse.find? (·.goesTo x y layer)).map (·.tile)

/-- A map after a write. -/
def FieldMap.write (m : FieldMap) (w : TileWrite) : FieldMap := m.setTile w.x w.y w.layer w.tile

/-- The range of a word. -/
theorem fitsWord_iff {n : Int} : FitsWord n ↔ -2147483648 ≤ n ∧ n ≤ 2147483647 := Iff.rfl

/-- A product that fits into a word is computed there. -/
theorem FitsWord.toInt_mul {a b : Int32} (h : FitsWord (a.toInt * b.toInt)) :
    (a * b).toInt = a.toInt * b.toInt := by
  obtain ⟨hlow, hhigh⟩ := fitsWord_iff.mp h
  rw [Int32.toInt_mul]
  exact Int.bmod_eq_of_le (by omega) (by omega)

/-- A sum that fits into a word is computed there. -/
theorem FitsWord.toInt_add {a b : Int32} (h : FitsWord (a.toInt + b.toInt)) :
    (a + b).toInt = a.toInt + b.toInt := by
  obtain ⟨hlow, hhigh⟩ := fitsWord_iff.mp h
  rw [Int32.toInt_add]
  exact Int.bmod_eq_of_le (by omega) (by omega)

/-- A word that is not negative keeps its value when it is made longer. -/
theorem toNat_longWord {a : Int32} (h : 0 ≤ a.toInt) :
    a.toInt64.toUInt64.toNat = a.toInt.toNat := by
  have hlong : (0 : Int64) ≤ a.toInt64 := by
    rw [Int64.le_iff_toInt_le, Int32.toInt_toInt64]
    exact h
  rw [Int64.toNat_toUInt64_of_le hlong, Int32.toNatClampNeg_toInt64]
  rfl

/-- Rows of the same width do not overlap. -/
theorem row_inj {width a a' x x' : Nat} (hx : x < width) (hx' : x' < width)
    (h : a * width + x = a' * width + x') : a = a' ∧ x = x' := by
  have hdiv (b z : Nat) (hz : z < width) : (b * width + z) / width = b := by
    rw [Nat.mul_comm, Nat.mul_add_div (by omega), Nat.div_eq_of_lt hz, Nat.add_zero]
  have hrow : a = a' := by rw [← hdiv a x hx, h, hdiv a' x' hx']
  subst hrow
  exact ⟨rfl, Nat.add_left_cancel h⟩

namespace TileStore

variable {s : TileStore} {x y x' y' : Int} {layer layer' : Nat}

instance (s : TileStore) (x y : Int) (layer : Nat) : Decidable (s.HasSlot x y layer) :=
  inferInstanceAs (Decidable (_ ∧ _))

/-- The test for a place on the map says whether it has slots. -/
theorem hasSlot_iff : (s.valid x y = true ∧ layer < layerCount) ↔ s.HasSlot x y layer := by
  simp [HasSlot, valid, and_assoc]

/-- The slots of a row stand beside each other, the rows below each other, and the layers behind
each other. -/
theorem index_eq (s : TileStore) (x y layer : Nat) :
    s.index x y layer = (layer * s.height + y) * s.width + x := by
  rw [index, Nat.add_mul, Nat.mul_assoc, Nat.mul_comm s.height]

/-- Every slot has its place in the store. -/
theorem index_lt (h : s.HasSlot x y layer) : s.index x.toNat y.toNat layer < s.tiles.size := by
  obtain ⟨⟨hx, hwidth, hy, hheight⟩, hlayer⟩ := h
  have hrow : layer * s.height + y.toNat + 1 ≤ layerCount * s.height := by
    have hlayers : (layer + 1) * s.height ≤ layerCount * s.height := Nat.mul_le_mul_right _ hlayer
    rw [Nat.succ_mul] at hlayers
    omega
  have hrows : (layer * s.height + y.toNat + 1) * s.width ≤ layerCount * s.height * s.width :=
    Nat.mul_le_mul_right _ hrow
  rw [Nat.succ_mul] at hrows
  rw [s.size_eq, Nat.mul_comm s.width, ← Nat.mul_assoc, index_eq]
  omega

/-- No two slots have the same place in the store. -/
theorem index_inj (h : s.HasSlot x y layer) (h' : s.HasSlot x' y' layer')
    (hindex : s.index x.toNat y.toNat layer = s.index x'.toNat y'.toNat layer') :
    x = x' ∧ y = y' ∧ layer = layer' := by
  obtain ⟨⟨hx, hwidth, hy, hheight⟩, -⟩ := h
  obtain ⟨⟨hx', hwidth', hy', hheight'⟩, -⟩ := h'
  rw [index_eq, index_eq] at hindex
  obtain ⟨hrow, hcolumn⟩ := row_inj (by omega) (by omega) hindex
  obtain ⟨hlayer, hline⟩ := row_inj (by omega) (by omega) hrow
  omega

/-- A slot is read from its place. -/
theorem get?_of_hasSlot (h : s.HasSlot x y layer) :
    s.get? x y layer = s.tiles[s.index x.toNat y.toNat layer]? :=
  if_pos (hasSlot_iff.mpr h)

/-- There is nothing to read but slots. -/
theorem get?_of_not_hasSlot (h : ¬ s.HasSlot x y layer) : s.get? x y layer = none :=
  if_neg fun hslot => h (hasSlot_iff.mp hslot)

/-- Exactly the slots have tiles. -/
theorem isSome_get? : (s.get? x y layer).isSome = true ↔ s.HasSlot x y layer := by
  by_cases h : s.HasSlot x y layer
  · simp [get?_of_hasSlot h, h, index_lt h]
  · simp [get?_of_not_hasSlot h, h]

/-- A write changes neither side. -/
theorem set_sides (tile : UInt16) :
    (s.set x y layer tile).width = s.width ∧ (s.set x y layer tile).height = s.height := by
  unfold set
  split <;> exact ⟨rfl, rfl⟩

/-- A write that goes to no slot changes nothing. -/
theorem set_of_not_hasSlot (h : ¬ s.HasSlot x y layer) (tile : UInt16) :
    s.set x y layer tile = s :=
  if_neg fun hslot => h (hasSlot_iff.mp hslot)

/-- A write changes no slots. -/
theorem hasSlot_set (tile : UInt16) :
    (s.set x' y' layer' tile).HasSlot x y layer ↔ s.HasSlot x y layer := by
  unfold HasSlot
  rw [(set_sides tile).1, (set_sides tile).2]

/-- What is written to a slot is read there, and every other slot is as it was. -/
theorem get?_set (h : s.HasSlot x' y' layer') (tile : UInt16) :
    (s.set x' y' layer' tile).get? x y layer =
      if x' = x ∧ y' = y ∧ layer' = layer then some tile else s.get? x y layer := by
  by_cases hslot : s.HasSlot x y layer
  · have hstore : (s.set x' y' layer' tile).get? x y layer =
        (s.tiles.setIfInBounds (s.index x'.toNat y'.toNat layer') tile)[
          s.index x.toNat y.toNat layer]? := by
      rw [set, if_pos (hasSlot_iff.mpr h), get?]
      exact if_pos (hasSlot_iff.mpr hslot)
    rw [hstore, Array.getElem?_setIfInBounds, if_pos (index_lt h)]
    by_cases hsame : x' = x ∧ y' = y ∧ layer' = layer
    · obtain ⟨rfl, rfl, rfl⟩ := hsame
      simp
    · have hother : ¬ s.index x'.toNat y'.toNat layer' = s.index x.toNat y.toNat layer :=
        fun hindex => hsame (index_inj h hslot hindex)
      rw [if_neg hother, if_neg hsame, get?_of_hasSlot hslot]
  · have hother : ¬ (x' = x ∧ y' = y ∧ layer' = layer) := by
      rintro ⟨rfl, rfl, rfl⟩
      exact hslot h
    rw [if_neg hother, get?_of_not_hasSlot hslot,
      get?_of_not_hasSlot (mt (hasSlot_set tile).mp hslot)]

/-- A list that is cut or filled up has its own tiles as far as it goes, and tile 0 behind. -/
theorem getElem?_fill {size i : Nat} (data : List UInt16) (hi : i < size) :
    (fill size data)[i]? = some (data.getD i 0) := by
  have hlist : (fill size data).toList =
      data.take size ++ List.replicate (size - data.length) 0 := by
    simp [fill]
  rw [← Array.getElem?_toList, hlist, List.getElem?_append, List.length_take]
  by_cases hlisted : i < data.length
  · rw [if_pos (by omega), List.getElem?_take, if_pos hi]
    simp [List.getD, hlisted]
  · have hbehind : i - min size data.length < size - data.length := by omega
    rw [if_neg (by omega)]
    simp [List.getD, hlisted, hbehind]

/-- A store that is made of a list has the tiles of the list in its slots. -/
theorem get?_ofList {width height : Nat} {data : List UInt16}
    (h : (ofList width height data).HasSlot x y layer) :
    (ofList width height data).get? x y layer =
      some (data.getD ((ofList width height data).index x.toNat y.toNat layer) 0) := by
  have hplace := index_lt h
  rw [size_eq] at hplace
  rw [get?_of_hasSlot h]
  exact getElem?_fill data hplace

/-- The number of places on a layer is small. -/
theorem area_le (s : TileStore) : s.width * s.height ≤ 4194304 :=
  Nat.mul_le_mul s.width_le s.height_le

/-- Everything that is computed on the way to a slot of a layer is on the layer. -/
theorem place_lt (h : s.HasSlot x y layer) :
    0 ≤ y * s.width ∧ y * s.width ≤ x + y * s.width ∧
      x + y * s.width < (s.width : Int) * s.height := by
  obtain ⟨⟨hx, hwidth, hy, hheight⟩, -⟩ := h
  have hrows : (y + 1) * s.width ≤ s.height * s.width :=
    Int.mul_le_mul_of_nonneg_right (by omega) (by omega)
  rw [Int.add_mul, Int.one_mul, Int.mul_comm s.height] at hrows
  have hrow : 0 ≤ y * s.width := Int.mul_nonneg hy (by omega)
  omega

/-- Nothing that is computed on the way to a slot leaves the range of a word. -/
theorem fitsWord_place (h : s.HasSlot x y layer) :
    FitsWord (y * s.width) ∧ FitsWord (x + y * s.width) := by
  obtain ⟨hrow, hcolumn, hlast⟩ := place_lt h
  have harea := s.area_le
  rw [fitsWord_iff, fitsWord_iff]
  omega

/-- The number of places on a layer fits into a word. -/
theorem fitsWord_area (s : TileStore) : FitsWord (s.width * s.height : Nat) := by
  have harea := s.area_le
  rw [fitsWord_iff]
  omega

/-- A side of the map fits into a word. -/
theorem toInt_ofNat_side {side : Nat} (h : side ≤ maxMapSide) : (Int32.ofNat side).toInt = side := by
  have hmax : maxMapSide = 2048 := rfl
  exact Int32.toInt_ofNat_of_lt (by omega)

/-- The number of places on a layer is computed in a word. -/
theorem toInt_area (s : TileStore) :
    (Int32.ofNat s.width * Int32.ofNat s.height).toInt = (s.width * s.height : Nat) := by
  have hfits : FitsWord ((Int32.ofNat s.width).toInt * (Int32.ofNat s.height).toInt) := by
    rw [toInt_ofNat_side s.width_le, toInt_ofNat_side s.height_le, ← Int.natCast_mul]
    exact s.fitsWord_area
  rw [hfits.toInt_mul, toInt_ofNat_side s.width_le, toInt_ofNat_side s.height_le,
    Int.natCast_mul]

/-- The place of a slot on its layer is computed in a word. -/
theorem toInt_place {x y : Int32} (h : s.HasSlot x.toInt y.toInt layer) :
    (x + y * Int32.ofNat s.width).toInt = x.toInt + y.toInt * s.width := by
  obtain ⟨hrow, hcolumn⟩ := fitsWord_place h
  have hwidth : (Int32.ofNat s.width).toInt = s.width := toInt_ofNat_side s.width_le
  have hproduct : (y * Int32.ofNat s.width).toInt = y.toInt * s.width := by
    rw [FitsWord.toInt_mul (by rwa [hwidth]), hwidth]
  rw [FitsWord.toInt_add (by rwa [hproduct]), hproduct]

/-- The place that is computed in words is the place of the slot. -/
theorem toNat_wordIndex {x y : Int32} {layer : UInt64}
    (h : s.HasSlot x.toInt y.toInt layer.toNat) :
    (s.wordIndex x y layer).toNat = s.index x.toInt.toNat y.toInt.toNat layer.toNat := by
  have harea := s.area_le
  have hlayers : layer.toNat * (s.width * s.height) ≤ 3 * 4194304 :=
    Nat.mul_le_mul (Nat.le_of_lt h.2) harea
  obtain ⟨hrow, hcolumn, hlast⟩ := place_lt h
  have hplace : (x + y * Int32.ofNat s.width).toInt64.toUInt64.toNat =
      (x.toInt + y.toInt * s.width).toNat := by
    rw [toNat_longWord (by rw [toInt_place h]; omega), toInt_place h]
  have hlayer : (Int32.ofNat s.width * Int32.ofNat s.height).toInt64.toUInt64.toNat =
      s.width * s.height := by
    rw [toNat_longWord (by rw [toInt_area]; omega), toInt_area, Int.toNat_natCast]
  have hexact : (x.toInt + y.toInt * s.width).toNat =
      x.toInt.toNat + y.toInt.toNat * s.width := by
    obtain ⟨⟨hx, -, hy, -⟩, -⟩ := h
    rw [Int.toNat_add hx hrow, Int.toNat_mul hy (Int.natCast_nonneg _), Int.toNat_natCast]
  rw [wordIndex, UInt64.toNat_add, UInt64.toNat_mul, hplace, hlayer, Nat.mod_eq_of_lt (by omega),
    Nat.mod_eq_of_lt (by omega), hexact, index]
  omega

end TileStore

/-- How a map is built: without events and with tile 0 everywhere, or from a record. -/
inductive MapSource where
  | blank (id width height : UInt32) (tileset : Tileset)
  | record (id : UInt32) (r : MapRecord) (tilesets : List Tileset) (switches : SelfSwitches)

namespace MapSource

/-- The map that is built. -/
def map : MapSource → FieldMap
  | .blank id width height tileset => .blank id width height tileset
  | .record id r tilesets switches => .ofRecord id r tilesets switches

/-- The width that is asked for. -/
def width : MapSource → Nat
  | .blank _ width _ _ => width.toNat
  | .record _ r _ _ => r.width.toNat

/-- The height that is asked for. -/
def height : MapSource → Nat
  | .blank _ _ height _ => height.toNat
  | .record _ r _ _ => r.height.toNat

/-- The tiles that are there from the start. -/
def tiles : MapSource → List UInt16
  | .blank .. => []
  | .record _ r _ _ => r.tiles

/-- The store of a map that has just been built. -/
theorem map_ground (source : MapSource) :
    source.map.ground = .ofList source.width source.height source.tiles := by
  cases source <;> rfl

end MapSource

namespace FieldMap

variable {m : FieldMap} {x y : Int} {layer : Nat}

/-- Writes change neither side. -/
theorem foldl_write_sides (writes : List TileWrite) :
    (writes.foldl write m).width = m.width ∧ (writes.foldl write m).height = m.height := by
  induction writes generalizing m with
  | nil => exact ⟨rfl, rfl⟩
  | cons w rest ih =>
    have hsides : (m.write w).width = m.width ∧ (m.write w).height = m.height :=
      TileStore.set_sides w.tile
    exact ⟨ih.1.trans hsides.1, ih.2.trans hsides.2⟩

/-- Writes change no slots. -/
theorem hasSlot_foldl_write (writes : List TileWrite) :
    (writes.foldl write m).ground.HasSlot x y layer ↔ m.ground.HasSlot x y layer := by
  obtain ⟨hwidth, hheight⟩ := foldl_write_sides (m := m) writes
  simp only [width, height] at hwidth hheight
  unfold TileStore.HasSlot
  rw [hwidth, hheight]

/-- What a slot reads after a write. -/
theorem get?_write (w : TileWrite) (h : m.ground.HasSlot x y layer) :
    (m.write w).ground.get? x y layer =
      if w.goesTo x y layer then some w.tile else m.ground.get? x y layer := by
  have hgoes : w.goesTo x y layer = true ↔ w.x = x ∧ w.y = y ∧ w.layer = layer := by
    simp [TileWrite.goesTo, and_assoc]
  by_cases hslot : m.ground.HasSlot w.x w.y w.layer
  · simp only [hgoes]
    exact TileStore.get?_set hslot w.tile
  · have hother : ¬ w.goesTo x y layer = true := by
      rw [hgoes]
      rintro ⟨rfl, rfl, rfl⟩
      exact hslot h
    rw [if_neg hother, write, setTile, TileStore.set_of_not_hasSlot hslot]

/-- A slot reads the last tile that was written to it, or what was there from the start. -/
theorem get?_foldl_write (writes : List TileWrite) (h : m.ground.HasSlot x y layer) :
    (writes.foldl write m).ground.get? x y layer =
      (lastWritten writes x y layer).or (m.ground.get? x y layer) := by
  induction writes generalizing m with
  | nil => rfl
  | cons w rest ih =>
    have hslot : (m.write w).ground.HasSlot x y layer := (TileStore.hasSlot_set w.tile).mpr h
    rw [List.foldl_cons, ih hslot, get?_write w h, lastWritten, lastWritten, List.reverse_cons,
      List.find?_append]
    cases List.find? (·.goesTo x y layer) rest.reverse with
    | some later => rfl
    | none => cases hgoes : w.goesTo x y layer <;> simp [hgoes]

/-- A write that goes to no slot leaves the map as it is. -/
theorem write_of_not_hasSlot {w : TileWrite} (h : ¬ m.ground.HasSlot w.x w.y w.layer) :
    m.write w = m := by
  rw [write, setTile, TileStore.set_of_not_hasSlot h]

/-- No tile is missing among those consulted about a place of the map. -/
theorem none_not_mem_consulted (h : m.valid x y = true) (self : Option UInt32) :
    none ∉ m.consulted x y self := by
  have hslots : ∀ layer ∈ [2, 1, 0], (m.ground.get? x y layer).isSome = true := by
    intro layer hlayer
    have hlow : layer < layerCount := by
      simp only [List.mem_cons, List.not_mem_nil, or_false] at hlayer
      show layer < 3
      omega
    exact TileStore.isSome_get?.mpr (TileStore.hasSlot_iff.mp ⟨h, hlow⟩)
  intro hmissing
  rcases List.mem_append.mp hmissing with hevent | hlayer
  · obtain ⟨e, -, he⟩ := List.mem_map.mp hevent
    cases he
  · obtain ⟨layer, hlayer, hnone⟩ := List.mem_map.mp hlayer
    have hsome := hslots layer hlayer
    rw [hnone] at hsome
    cases hsome

end FieldMap

/-- The tiles of a record are counted if neither side is too long. -/
theorem MapRecord.tileCount?_eq_some_iff {r : MapRecord} {count : Nat} :
    r.tileCount? = some count ↔ r.width.toNat ≤ maxMapSide ∧ r.height.toNat ≤ maxMapSide ∧
      r.width.toNat * r.height.toNat * layerCount = count := by
  simp [tileCount?, fits, and_assoc]

section

variable {r : MapRecord} {x y layer : Nat}

/-- The slots of a map of a record whose sides are not too long, and where their tiles stand. -/
theorem MapRecord.slot (hwidth : r.width.toNat ≤ maxMapSide) (hheight : r.height.toNat ≤ maxMapSide)
    (hx : x < r.width.toNat) (hy : y < r.height.toNat) (hlayer : layer < layerCount) :
    let store := TileStore.ofList r.width.toNat r.height.toNat r.tiles
    store.HasSlot x y layer ∧
      store.index x y layer = layer * (r.width.toNat * r.height.toNat) + y * r.width.toNat + x ∧
      store.tiles.size = layerCount * (r.width.toNat * r.height.toNat) := by
  intro store
  have hwidth' : store.width = r.width.toNat := Nat.min_eq_left hwidth
  have hheight' : store.height = r.height.toNat := Nat.min_eq_left hheight
  refine ⟨⟨?_, hlayer⟩, ?_, ?_⟩
  · rw [hwidth', hheight']
    omega
  · rw [TileStore.index, hwidth', hheight']
  · rw [TileStore.size_eq, hwidth', hheight']

/-- A map that is set up from a record whose sides are not too long has the tiles of the record,
layer by layer and row by row, and tile 0 where the record has none. -/
theorem MapRecord.get?_ground (hwidth : r.width.toNat ≤ maxMapSide)
    (hheight : r.height.toNat ≤ maxMapSide) (id : UInt32) (tilesets : List Tileset)
    (switches : SelfSwitches) (hx : x < r.width.toNat) (hy : y < r.height.toNat)
    (hlayer : layer < layerCount) :
    (FieldMap.ofRecord id r tilesets switches).ground.get? x y layer = some
      (r.tiles.getD (layer * (r.width.toNat * r.height.toNat) + y * r.width.toNat + x) 0) := by
  have hground : (FieldMap.ofRecord id r tilesets switches).ground =
      .ofList r.width.toNat r.height.toNat r.tiles := rfl
  obtain ⟨hslot, hindex, -⟩ := slot hwidth hheight hx hy hlayer
  rw [hground, TileStore.get?_ofList hslot, Int.toNat_natCast, Int.toNat_natCast, hindex]

/-- A record with exactly as many tiles as its map has slots has a tile for each of them. -/
theorem MapRecord.get?_tiles (hcount : r.tileCount? = some r.tiles.length) (id : UInt32)
    (tilesets : List Tileset) (switches : SelfSwitches) (hx : x < r.width.toNat)
    (hy : y < r.height.toNat) (hlayer : layer < layerCount) :
    ∃ tile, r.tiles[layer * (r.width.toNat * r.height.toNat) + y * r.width.toNat + x]? = some tile ∧
      (FieldMap.ofRecord id r tilesets switches).ground.get? x y layer = some tile := by
  obtain ⟨hwidth, hheight, hlength⟩ := tileCount?_eq_some_iff.mp hcount
  obtain ⟨hslot, hindex, hsize⟩ := slot hwidth hheight hx hy hlayer
  have hplace := TileStore.index_lt hslot
  rw [Int.toNat_natCast, Int.toNat_natCast, hindex, hsize, Nat.mul_comm layerCount,
    hlength] at hplace
  have hlisted := List.getElem?_eq_getElem hplace
  refine ⟨_, hlisted, ?_⟩
  rw [get?_ground hwidth hheight id tilesets switches hx hy hlayer, List.getD, hlisted,
    Option.getD_some]

end

/-- **The tiles of a map are an array of three dimensions.** A map that has been built in any way, and
whose tiles have been written any number of times, has the sides it was built with, cut at 2048, and
three times as many tiles as places. Exactly its places have tiles on exactly three layers. A slot
reads the last tile written to it, or the one from the start; a write changes its own slot and no
other, and nothing if there is no such slot. Everything that is computed on the way to a slot fits
into a word, so computing in words finds it. A record with the right number of tiles has them layer by
layer and row by row. No tile is missing when a place is asked whether it can be left. -/
theorem MapSource.tiles_faithful (source : MapSource) (writes : List TileWrite) :
    let m := writes.foldl FieldMap.write source.map
    (m.width = min source.width 2048 ∧ m.height = min source.height 2048 ∧
      m.ground.tiles.size = 3 * (m.width * m.height)) ∧
    (∀ x y layer,
      ((m.ground.get? x y layer).isSome = true ↔ m.valid x y = true ∧ layer < 3) ∧
      (m.valid x y = true ∧ layer < 3 → m.ground.get? x y layer =
        (lastWritten writes x y layer).or (source.map.ground.get? x y layer))) ∧
    (∀ w : TileWrite,
      (m.valid w.x w.y = true ∧ w.layer < 3 → ∀ x y layer, (m.write w).ground.get? x y layer =
        if w.x = x ∧ w.y = y ∧ w.layer = layer then some w.tile else m.ground.get? x y layer) ∧
      (¬ (m.valid w.x w.y = true ∧ w.layer < 3) → m.write w = m)) ∧
    (FitsWord (m.width * m.height : Nat) ∧
      ∀ (x y : Int32) (layer : UInt64), m.valid x.toInt y.toInt = true ∧ layer.toNat < 3 →
        FitsWord (y.toInt * m.width) ∧ FitsWord (x.toInt + y.toInt * m.width) ∧
        (m.ground.wordIndex x y layer).toNat =
          m.ground.index x.toInt.toNat y.toInt.toNat layer.toNat ∧
        m.ground.index x.toInt.toNat y.toInt.toNat layer.toNat < m.ground.tiles.size) ∧
    (∀ id (r : MapRecord) tilesets switches, r.tileCount? = some r.tiles.length →
      ∀ x y layer : Nat, x < r.width.toNat → y < r.height.toNat → layer < 3 →
        ∃ tile, r.tiles[layer * (r.width.toNat * r.height.toNat) + y * r.width.toNat + x]? =
            some tile ∧
          (FieldMap.ofRecord id r tilesets switches).ground.get? x y layer = some tile) ∧
    ∀ x y self, m.valid x y = true → none ∉ m.consulted x y self := by
  intro m
  obtain ⟨hwidth, hheight⟩ := FieldMap.foldl_write_sides (m := source.map) writes
  have hground := source.map_ground
  refine ⟨⟨?_, ?_, m.ground.size_eq⟩, fun x y layer => ⟨?_, fun hslot => ?_⟩, fun w => ⟨?_, ?_⟩,
    ⟨?_, fun x y layer hslot => ?_⟩, ?_, fun x y self hvalid => ?_⟩
  · rw [hwidth, FieldMap.width, hground]
    rfl
  · rw [hheight, FieldMap.height, hground]
    rfl
  · exact TileStore.isSome_get?.trans TileStore.hasSlot_iff.symm
  · apply FieldMap.get?_foldl_write
    exact (FieldMap.hasSlot_foldl_write writes).mp (TileStore.hasSlot_iff.mp hslot)
  · intro hslot x y layer
    exact TileStore.get?_set (TileStore.hasSlot_iff.mp hslot) w.tile
  · intro hnone
    exact FieldMap.write_of_not_hasSlot (mt TileStore.hasSlot_iff.mpr hnone)
  · exact m.ground.fitsWord_area
  · have hslot := TileStore.hasSlot_iff.mp hslot
    obtain ⟨hrow, hcolumn⟩ := TileStore.fitsWord_place hslot
    exact ⟨hrow, hcolumn, TileStore.toNat_wordIndex hslot, TileStore.index_lt hslot⟩
  · intro id r tilesets switches hcount x y layer hx hy hlayer
    exact MapRecord.get?_tiles hcount id tilesets switches hx hy hlayer
  · exact FieldMap.none_not_mem_consulted hvalid self

end Overworld
