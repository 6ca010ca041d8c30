import Overworld.Proofs.Collision.Survey

/-!
# Movement and the collision grid

A player on a map can leave its tile exactly in the directions that the grid does not block: the
grid is computed for a player who stands beside the map, but nobody is in the way of a step away
from its own tile. Whatever steps a player is asked to take, it stays on the map.
-/

namespace Overworld

/-- What a player is asked to do: to step in a direction, either walking through obstacles or not.
`through` says whether the player is no obstacle to anything at that time. -/
structure Stride where
  direction : Direction
  walkThrough : Bool := false
  through : Bool := false
  deriving DecidableEq, Inhabited

namespace Player

/-- A player who takes a step; the first component says whether it could. -/
def take (p : Player) (map : FieldMap) (stride : Stride) : Bool × Player :=
  { p with through := stride.through }.step map stride.direction stride.walkThrough

/-- A player who takes these steps, one after the other. -/
def walk (p : Player) (map : FieldMap) (strides : List Stride) : Player :=
  strides.foldl (fun p stride => (p.take map stride).2) p

/-- The player stands on the map. -/
def IsOn (p : Player) (map : FieldMap) : Prop := map.valid p.x p.y = true

instance (p : Player) (map : FieldMap) : Decidable (p.IsOn map) :=
  inferInstanceAs (Decidable (_ = true))

end Player

section

variable {map : FieldMap} {p : Player}

/-- Where the places of a map are. -/
theorem FieldMap.valid_iff {x y : Int} :
    map.valid x y = true ↔ 0 ≤ x ∧ x < map.width ∧ 0 ≤ y ∧ y < map.height := by
  simp [FieldMap.valid, TileStore.valid, FieldMap.width, FieldMap.height, and_assoc]

/-- A step goes to another tile. -/
theorem Direction.offset_ne (d : Direction) : d.offset.1 ≠ 0 ∨ d.offset.2 ≠ 0 := by
  cases d <;> decide

/-- A player is in nobody's way on a tile where it does not stand, so it does not matter there
where else it stands. -/
theorem Player.passable_moveTo {x y x' y' : Int} {d : Direction}
    (haside : p.x ≠ x + d.offset.1 ∨ p.y ≠ y + d.offset.2)
    (haside' : map.valid (x + d.offset.1) (y + d.offset.2) = true →
      x' ≠ x + d.offset.1 ∨ y' ≠ y + d.offset.2) :
    (p.moveTo x' y').passable map x y d = p.passable map x y d := by
  unfold passable moveTo
  cases hvalid : map.valid (x + d.offset.1) (y + d.offset.2) with
  | false => simp only [hvalid, Bool.false_and]
  | true =>
    have hfree : (p.x == x + d.offset.1 && p.y == y + d.offset.2) = false := by
      rw [Bool.and_eq_false_iff, beq_eq_false_iff_ne, beq_eq_false_iff_ne]
      exact haside
    have hfree' : (x' == x + d.offset.1 && y' == y + d.offset.2) = false := by
      rw [Bool.and_eq_false_iff, beq_eq_false_iff_ne, beq_eq_false_iff_ne]
      exact haside' hvalid
    simp only [hfree, hfree']

/-- A player may step away from its own tile where one beside the map might. -/
theorem Player.passable_aside (d : Direction) :
    (p.moveTo (-1) (-1)).passable map p.x p.y d = p.passable map p.x p.y d := by
  apply passable_moveTo
  · have hmoves := d.offset_ne
    omega
  · intro hvalid
    have hplace := FieldMap.valid_iff.mp hvalid
    omega

/-- A step that is asked for is taken exactly if the rules allow it. -/
theorem Player.step_fst (d : Direction) :
    (p.step map d false).1 = p.passable map p.x p.y d := rfl

/-- Nobody steps off a map. -/
theorem Player.valid_of_passable {x y : Int} {d : Direction} (h : p.passable map x y d = true) :
    map.valid (x + d.offset.1) (y + d.offset.2) = true := by
  unfold passable at h
  exact (Bool.and_eq_true_iff.mp h).1

/-- A step that is taken leads to the next tile in its direction, which is on the map. -/
theorem Player.take_accepted {stride : Stride} (h : (p.take map stride).1 = true) :
    (p.take map stride).2.x = p.x + stride.direction.offset.1 ∧
      (p.take map stride).2.y = p.y + stride.direction.offset.2 ∧
      (p.take map stride).2.IsOn map := by
  simp only [take, step] at h ⊢
  rw [if_pos h]
  refine ⟨rfl, rfl, ?_⟩
  cases hwalk : stride.walkThrough with
  | true => rwa [hwalk, if_pos rfl] at h
  | false =>
    rw [hwalk] at h
    exact valid_of_passable h

/-- A step that is refused leaves the player where it is. -/
theorem Player.take_refused {stride : Stride} (h : (p.take map stride).1 = false) :
    (p.take map stride).2.x = p.x ∧ (p.take map stride).2.y = p.y := by
  simp only [take, step] at h ⊢
  simp only [h, Bool.false_eq_true, if_false, and_self]

/-- A player on a map stays on it when it takes a step, or cannot. -/
theorem Player.IsOn.take (hp : p.IsOn map) (stride : Stride) : (p.take map stride).2.IsOn map := by
  cases hstep : (p.take map stride).1 with
  | true => exact (take_accepted hstep).2.2
  | false =>
    obtain ⟨hx, hy⟩ := take_refused hstep
    unfold IsOn
    rw [hx, hy]
    exact hp

/-- A player on a map stays on it on any walk. -/
theorem Player.IsOn.walk (hp : p.IsOn map) (strides : List Stride) :
    (p.walk map strides).IsOn map := by
  induction strides generalizing p with
  | nil => exact hp
  | cons stride rest ih => exact ih (hp.take stride)

/-- The mask of a tile has the directions in which a player beside the map may not step from it. -/
theorem playerGrid_mask_at (map : FieldMap) (p : Player) :
    ∃ grid, playerGrid map p = (.ok grid, p) ∧
      ∀ x y : Int, map.valid x y = true → ∃ mask, grid.mask? x y = some mask ∧
        ∀ d : Direction, mask.testBit d.bitIndex = !(p.moveTo (-1) (-1)).passable map x y d := by
  refine ⟨_, playerGrid_eq map p, fun x y hvalid => ?_⟩
  exact ⟨_, CollisionGrid.mask?_ofMasks (Direction.maskOf_lt _) (FieldMap.valid_iff.mp hvalid),
    fun d => Direction.testBit_maskOf ..⟩

/-- The mask of the player's own tile has the directions in which the player may not step. -/
theorem playerGrid_mask (hp : p.IsOn map) :
    ∃ grid mask, playerGrid map p = (.ok grid, p) ∧ grid.mask? p.x p.y = some mask ∧
      ∀ d : Direction, mask.testBit d.bitIndex = !p.passable map p.x p.y d := by
  obtain ⟨grid, hgrid, hmasks⟩ := playerGrid_mask_at map p
  obtain ⟨mask, hmask, hbits⟩ := hmasks p.x p.y hp
  refine ⟨grid, mask, hgrid, hmask, fun d => ?_⟩
  rw [hbits, Player.passable_aside]

end

/-- **The grid tells the truth about movement.** For a player on a map, the mask of its tile has the
bit of a direction exactly if a step in that direction is refused. And whatever steps a player is
asked to take, it stays on the map: every step that it takes leads to the next tile in its
direction, and after one that is refused it stands where it stood. -/
theorem playerGrid_tells_steps (map : FieldMap) (p : Player) (hp : p.IsOn map) :
    (∃ grid mask, playerGrid map p = (.ok grid, p) ∧ grid.mask? p.x p.y = some mask ∧
      ∀ d : Direction, mask.testBit d.bitIndex = true ↔ (p.step map d false).1 = false) ∧
    ∀ strides : List Stride, (p.walk map strides).IsOn map ∧
      ∀ stride : Stride,
        let here := p.walk map strides
        let (accepted, there) := here.take map stride
        (accepted = true → there.x = here.x + stride.direction.offset.1 ∧
          there.y = here.y + stride.direction.offset.2) ∧
        (accepted = false → there.x = here.x ∧ there.y = here.y) := by
  constructor
  · obtain ⟨grid, mask, hgrid, hmask, hbits⟩ := playerGrid_mask hp
    refine ⟨grid, mask, hgrid, hmask, fun d => ?_⟩
    rw [hbits, Player.step_fst, Bool.not_eq_true']
  · intro strides
    refine ⟨hp.walk strides, fun stride => ⟨fun haccepted => ?_, Player.take_refused⟩⟩
    obtain ⟨hx, hy, -⟩ := Player.take_accepted haccepted
    exact ⟨hx, hy⟩

/-- A map of three tiles by two, with somebody standing in the middle of its upper row. -/
private def corridor : FieldMap :=
  { ground := .ofList 3 2 []
    events := .ofList [
      { id := 1, name := "Guard", x := 1, y := 0, page := some 0
        pages := [{ graphic := { character := "guard" } }] }] }

/-- A player in the corner of the map beside the guard can only step down. -/
theorem corridor_tells_steps :
    let hero : Player := {}
    hero.IsOn corridor ∧
    (∃ grid mask, playerGrid corridor hero = (.ok grid, hero) ∧
      grid.mask? hero.x hero.y = some mask ∧
      ∀ d : Direction, mask.testBit d.bitIndex = true ↔ (hero.step corridor d false).1 = false) ∧
    (∀ d : Direction, (hero.step corridor d false).1 = false ↔ d ≠ .down) ∧
    (∀ stride : Stride,
        let here := hero.walk corridor [{ direction := .right }, { direction := .down }]
        let (accepted, there) := here.take corridor stride
        (accepted = true → there.x = here.x + stride.direction.offset.1 ∧
          there.y = here.y + stride.direction.offset.2) ∧
        (accepted = false → there.x = here.x ∧ there.y = here.y)) ∧
    hero.walk corridor [{ direction := .right }, { direction := .down },
        { direction := .up, walkThrough := true }, { direction := .right, through := true }] =
      { hero with x := 1, direction := .right, through := true } := by
  intro hero
  have hon : hero.IsOn corridor := by decide
  refine ⟨hon, (playerGrid_tells_steps corridor hero hon).1, fun d => ?_,
    ((playerGrid_tells_steps corridor hero hon).2 _).2, by decide⟩
  cases d <;> decide

end Overworld
