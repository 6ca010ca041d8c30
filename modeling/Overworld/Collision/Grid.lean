import Overworld.Fault
import Overworld.Map.Player

/-!
# Collision grids

For every tile of a map, the directions in which the player cannot leave it. The
grid is computed by asking about each tile and direction, with the player put
beside the map so that its own tile reads as free.
-/

namespace Overworld

/-- The cell value of a tile with an empty mask, were it written; masks are added to it. -/
def tileOffset : Nat := 384

/-- The cell values of a map, row by row. A cell is 0 for a tile that is open on all sides, and
otherwise the first tile of the collision tileset plus the tile's mask. -/
structure CollisionGrid where
  width : Nat
  height : Nat
  cells : Array Nat
  deriving DecidableEq, Inhabited

namespace CollisionGrid

/-- The cell of a tile; none off the map. -/
def get? (g : CollisionGrid) (x y : Int) : Option Nat :=
  if 0 ≤ x ∧ 0 ≤ y ∧ x < g.width ∧ y < g.height then g.cells[x.toNat + y.toNat * g.width]?
  else none

/-- The mask that a cell value stands for. -/
def maskOfCell (cell : Nat) : Nat := if cell = 0 then 0 else (cell - tileOffset) % 16

/-- The cell value of a mask. -/
def cellOfMask (mask : Nat) : Nat := if mask = 0 then 0 else tileOffset + mask

/-- The mask of a tile; none off the map. -/
def mask? (g : CollisionGrid) (x y : Int) : Option Nat := (g.get? x y).map maskOfCell

/-- The number of tiles that are not open on all sides. -/
def blockedTiles (g : CollisionGrid) : Nat := g.cells.toList.countP (· ≠ 0)

/-- The character of a mask: a point when it is empty, otherwise a hexadecimal digit. -/
def maskChar (mask : Nat) : Char := if mask = 0 then '.' else Nat.digitChar mask

/-- The characters of a row. -/
def rowText (g : CollisionGrid) (y : Nat) : List Char :=
  (List.range g.width).map fun x : Nat => maskChar ((g.mask? x y).getD 0)

/-- The grid as text, one line for each row. -/
def toText (g : CollisionGrid) : String :=
  String.ofList ((List.range g.height).flatMap fun y => g.rowText y ++ ['\n'])

end CollisionGrid

/-- A movement query: whether a player may leave a tile in a direction. It may depend on what it
was asked before, and it may fail. -/
abbrev MovementQuery (m : Type → Type) (ε : Type) : Type :=
  FieldMap → Player → Int → Int → Direction → m (Except ε Bool)

/-- The player's own rules of movement. -/
def playerQuery {m : Type → Type} [Monad m] : MovementQuery m Fault :=
  fun map player x y d => return .ok (player.passable map x y d)

section

variable {m : Type → Type} [Monad m] {ε : Type}

/-- Asks about directions of a tile and adds up the bits of those that are blocked. -/
def maskFrom (ask : Direction → m (Except ε Bool)) (mask : Nat) :
    List Direction → m (Except ε Nat)
  | [] => return .ok mask
  | d :: rest => do
    match ← ask d with
    | .error e => return .error e
    | .ok true => maskFrom ask mask rest
    | .ok false => maskFrom ask (mask + d.bit) rest

/-- Computes the cells of these tiles, behind those computed before. -/
def cellsFrom (ask : Int → Int → Direction → m (Except ε Bool)) (cells : Array Nat) :
    List (Nat × Nat) → m (Except ε (Array Nat))
  | [] => return .ok cells
  | (x, y) :: rest => do
    match ← maskFrom (ask x y) 0 Direction.all with
    | .error e => return .error e
    | .ok mask => cellsFrom ask (cells.push (CollisionGrid.cellOfMask mask)) rest

/-- The tiles of a rectangle, row by row. -/
def tilesOf (width height : Nat) : List (Nat × Nat) :=
  (List.range height).flatMap fun y => (List.range width).map fun x => (x, y)

/-- The grid of a map, and the player as it is afterwards. For the time of the queries the player
stands beside the map; it is put back also when one of them fails. -/
def surveyGrid (query : MovementQuery m ε) (map : FieldMap) (player : Player) :
    m (Except ε CollisionGrid × Player) := do
  let aside := player.moveTo (-1) (-1)
  let cells ← cellsFrom (query map aside) #[] (tilesOf map.width map.height)
  return (cells.map fun cells => { width := map.width, height := map.height, cells },
    aside.moveTo player.x player.y)

end

/-- The grid of a map under the player's own rules. -/
def playerGrid (map : FieldMap) (player : Player) : Except Fault CollisionGrid × Player :=
  Id.run (surveyGrid playerQuery map player)

end Overworld
