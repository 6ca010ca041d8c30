import Mathlib
import Overworld.Collision.Grid

/-!
# What a survey finds

A collision grid has one cell for each tile, row by row, and a cell determines the directions in
which its tile cannot be left. A query that always answers is therefore found in the grid as it
was answered: the masks of the grid are those of the query.
-/

namespace Overworld

namespace Direction

/-- The mask with the bits of those directions that are blocked. -/
def maskOf (blocked : Direction → Bool) : Nat := ((all.filter blocked).map bit).sum

/-- A mask has the bits of the blocked directions and no others. -/
theorem testBit_maskOf (blocked : Direction → Bool) (d : Direction) :
    (maskOf blocked).testBit d.bitIndex = blocked d := by
  cases hdown : blocked .down <;> cases hleft : blocked .left <;>
    cases hright : blocked .right <;> cases hup : blocked .up <;>
    cases d <;> simp [maskOf, all, hdown, hleft, hright, hup] <;> decide

/-- A mask has four bits. -/
theorem maskOf_lt (blocked : Direction → Bool) : maskOf blocked < 16 := by
  cases hdown : blocked .down <;> cases hleft : blocked .left <;>
    cases hright : blocked .right <;> cases hup : blocked .up <;>
    simp [maskOf, all, hdown, hleft, hright, hup] <;> decide

end Direction

/-- A cell determines the mask that it was written for. -/
theorem CollisionGrid.maskOfCell_cellOfMask {mask : Nat} (h : mask < 16) :
    maskOfCell (cellOfMask mask) = mask := by
  by_cases hmask : mask = 0
  · simp [hmask, cellOfMask, maskOfCell]
  · have hcell : tileOffset + mask ≠ 0 := by omega
    rw [cellOfMask, if_neg hmask, maskOfCell, if_neg hcell, Nat.add_sub_cancel_left]
    exact Nat.mod_eq_of_lt h

section

variable {m : Type → Type} [Monad m] [LawfulMonad m] {ε : Type}

/-- Questions that are all answered add up to the bits of the blocked directions. -/
theorem maskFrom_pure (isOpen : Direction → Bool) (mask : Nat) (directions : List Direction) :
    maskFrom (fun d => (pure (.ok (isOpen d)) : m (Except ε Bool))) mask directions =
      pure (.ok (mask + ((directions.filter fun d => !isOpen d).map Direction.bit).sum)) := by
  induction directions generalizing mask with
  | nil => simp [maskFrom]
  | cons d rest ih =>
    cases hopen : isOpen d with
    | true => simp [maskFrom, hopen, ih]
    | false => simp [maskFrom, hopen, ih, Nat.add_assoc]

/-- Questions that are all answered give every tile the cell of its mask. -/
theorem cellsFrom_pure (isOpen : Int → Int → Direction → Bool) (cells : Array Nat)
    (tiles : List (Nat × Nat)) :
    cellsFrom (fun x y d => (pure (.ok (isOpen x y d)) : m (Except ε Bool))) cells tiles =
      pure (.ok (cells ++ (tiles.map fun tile => CollisionGrid.cellOfMask
        (Direction.maskOf fun d => !isOpen tile.1 tile.2 d)).toArray)) := by
  induction tiles generalizing cells with
  | nil => simp [cellsFrom]
  | cons tile rest ih =>
    simp only [cellsFrom, maskFrom_pure, pure_bind, ih]
    simp [Direction.maskOf]

end

/-- A further row of tiles stands behind those above it. -/
theorem tilesOf_succ (width height : Nat) :
    tilesOf width (height + 1) =
      tilesOf width height ++ (List.range width).map fun x => (x, height) := by
  simp [tilesOf, List.range_succ]

/-- A rectangle has as many tiles as its area says. -/
theorem length_tilesOf (width height : Nat) : (tilesOf width height).length = height * width := by
  induction height with
  | zero => simp [tilesOf]
  | succ height ih => rw [tilesOf_succ, List.length_append, ih]; simp [Nat.succ_mul]

/-- Where a tile stands among those of its rectangle. -/
theorem getElem?_tilesOf {width height x y : Nat} (hx : x < width) (hy : y < height) :
    (tilesOf width height)[x + y * width]? = some (x, y) := by
  induction height with
  | zero => exact absurd hy (Nat.not_lt_zero y)
  | succ height ih =>
    rw [tilesOf_succ]
    by_cases hlast : y = height
    · subst hlast
      have hbehind : (tilesOf width y).length ≤ x + y * width := by
        rw [length_tilesOf]
        omega
      rw [List.getElem?_append_right hbehind, length_tilesOf, Nat.add_sub_cancel]
      simp [hx]
    · have habove : x + y * width < (tilesOf width height).length := by
        have hrow : (y + 1) * width ≤ height * width := Nat.mul_le_mul_right width (by omega)
        rw [Nat.succ_mul] at hrow
        rw [length_tilesOf]
        omega
      rw [List.getElem?_append_left habove]
      exact ih (by omega)

/-- The grid whose masks these are. -/
def CollisionGrid.ofMasks (width height : Nat) (masks : Int → Int → Nat) : CollisionGrid where
  width
  height
  cells := ((tilesOf width height).map fun tile =>
    CollisionGrid.cellOfMask (masks tile.1 tile.2)).toArray

/-- A grid has the cells of the masks that it was made of. -/
theorem CollisionGrid.get?_ofMasks {width height : Nat} {masks : Int → Int → Nat} {x y : Int}
    (hon : 0 ≤ x ∧ x < width ∧ 0 ≤ y ∧ y < height) :
    (ofMasks width height masks).get? x y = some (cellOfMask (masks x y)) := by
  obtain ⟨hx, hwidth, hy, hheight⟩ := hon
  have hplace : (tilesOf width height)[x.toNat + y.toNat * width]? = some (x.toNat, y.toNat) :=
    getElem?_tilesOf (by omega) (by omega)
  simp only [get?, ofMasks, hx, hwidth, hy, hheight, and_self, if_true, List.getElem?_toArray,
    List.getElem?_map, hplace, Option.map_some, Int.toNat_of_nonneg]

/-- A grid has the masks that it was made of. -/
theorem CollisionGrid.mask?_ofMasks {width height : Nat} {masks : Int → Int → Nat} {x y : Int}
    (hmasks : masks x y < 16) (hon : 0 ≤ x ∧ x < width ∧ 0 ≤ y ∧ y < height) :
    (ofMasks width height masks).mask? x y = some (masks x y) := by
  rw [mask?, get?_ofMasks hon, Option.map_some, maskOfCell_cellOfMask hmasks]

/-- **The player's grid** has the masks of the player's rules of movement, for a player who stands
beside the map. The survey never fails, and leaves the player where it was. -/
theorem playerGrid_eq (map : FieldMap) (player : Player) :
    playerGrid map player =
      (.ok (.ofMasks map.width map.height fun x y =>
        Direction.maskOf fun d => !(player.moveTo (-1) (-1)).passable map x y d), player) := by
  have hcells := cellsFrom_pure (m := Id) (ε := Fault)
    ((player.moveTo (-1) (-1)).passable map) #[] (tilesOf map.width map.height)
  have hquery : playerQuery map (player.moveTo (-1) (-1)) = fun x y d =>
      (pure (.ok ((player.moveTo (-1) (-1)).passable map x y d)) : Id (Except Fault Bool)) := rfl
  rw [playerGrid, surveyGrid, hquery, hcells]
  simp only [pure_bind, Array.empty_append]
  rfl

end Overworld
