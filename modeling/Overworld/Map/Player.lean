import Overworld.Map.FieldMap

/-!
# The player

Where the player stands and whether a step is possible. A step has to be allowed
by the tiles on both of its ends, and no visible character may stand in the way.
-/

namespace Overworld

/-- The player's character. -/
structure Player where
  x : Int := 0
  y : Int := 0
  direction : Direction := .down
  through : Bool := false
  character : String := "hero"
  deriving DecidableEq, Inhabited

namespace Player

/-- Puts the player on a tile. -/
def moveTo (p : Player) (x y : Int) : Player := { p with x, y }

/-- Whether a visible event that is an obstacle stands on a tile. -/
def occupied (map : FieldMap) (x y : Int) : Bool :=
  map.events.toList.any fun e => e.isAt x y && !e.through && !e.character.isEmpty

/-- Whether a character on a tile may step in a direction. A visible player is in the way of
itself. -/
def passable (p : Player) (map : FieldMap) (x y : Int) (d : Direction) : Bool :=
  let nextX := x + d.offset.1
  let nextY := y + d.offset.2
  map.valid nextX nextY &&
    (p.through ||
      map.passable x y d none && map.passable nextX nextY d.reverse none &&
        !occupied map nextX nextY &&
        !(p.x == nextX && p.y == nextY && !p.character.isEmpty))

/-- Turns the player and steps if possible; the first component says whether it stepped. Walking
through obstacles only needs the next tile to be on the map. -/
def step (p : Player) (map : FieldMap) (d : Direction) (walkThrough : Bool) : Bool × Player :=
  let p := { p with direction := d }
  let nextX := p.x + d.offset.1
  let nextY := p.y + d.offset.2
  let allowed := if walkThrough then map.valid nextX nextY else p.passable map p.x p.y d
  (allowed, if allowed then p.moveTo nextX nextY else p)

end Player

end Overworld
