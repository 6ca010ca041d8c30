/-!
# Directions

The four directions of movement. A tile that cannot be left in some directions is
described by a mask with one bit for each, in the order down, left, right, up.
-/

namespace Overworld

/-- A direction of movement. -/
inductive Direction where
  | down
  | left
  | right
  | up
  deriving DecidableEq, Inhabited, Repr

namespace Direction

/-- The directions in the order of their mask bits. -/
def all : List Direction := [.down, .left, .right, .up]

/-- The number that stands for a direction in data files. -/
def code : Direction → Nat
  | .down => 2
  | .left => 4
  | .right => 6
  | .up => 8

/-- The direction with this number. -/
def ofCode? (code : Int) : Option Direction := all.find? fun d => d.code = code

/-- The place of a direction's bit in a mask. -/
def bitIndex (d : Direction) : Nat := d.code / 2 - 1

/-- A direction's bit. -/
def bit (d : Direction) : Nat := 1 <<< d.bitIndex

/-- The opposite direction. -/
def reverse : Direction → Direction
  | .down => .up
  | .left => .right
  | .right => .left
  | .up => .down

/-- The step of one tile; the second coordinate grows downwards. -/
def offset : Direction → Int × Int
  | .down => (0, 1)
  | .left => (-1, 0)
  | .right => (1, 0)
  | .up => (0, -1)

@[simp] theorem reverse_reverse (d : Direction) : d.reverse.reverse = d := by cases d <;> rfl

theorem mem_all (d : Direction) : d ∈ all := by cases d <;> decide

end Direction

end Overworld
