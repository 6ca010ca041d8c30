import Overworld.Proofs.Collision.Movement

/-!
# Walls

What stands between two tiles of a map stands there for both of them: the step from one to the other
consults the same tiles as the step back. Only characters are in the way on one side, so between
tiles that hold none the grid is symmetric. Nothing leads off the map.
-/

namespace Overworld

/-- A direction leads from a tile to another. -/
def Direction.Leads (d : Direction) (a b : Int × Int) : Prop :=
  b.1 = a.1 + d.offset.1 ∧ b.2 = a.2 + d.offset.2

/-- Two tiles are orthogonal neighbours. -/
def Adjacent (a b : Int × Int) : Prop := (b.1 - a.1).natAbs + (b.2 - a.2).natAbs = 1

/-- An event that is an obstacle and shows a character stands on a tile. -/
def FieldMap.HoldsCharacter (m : FieldMap) (tile : Int × Int) : Prop :=
  ∃ e ∈ m.events.toList, e.x = tile.1 ∧ e.y = tile.2 ∧ e.through = false ∧ e.character ≠ ""

namespace Direction

/-- The opposite direction steps back. -/
@[simp] theorem offset_reverse (d : Direction) :
    d.reverse.offset = (-d.offset.1, -d.offset.2) := by
  cases d <;> rfl

variable {d : Direction} {a b : Int × Int}

/-- The opposite direction leads back. -/
theorem Leads.reverse (h : d.Leads a b) : d.reverse.Leads b a := by
  obtain ⟨hx, hy⟩ := h
  rw [Leads, offset_reverse]
  constructor
  · show a.1 = b.1 + -d.offset.1
    omega
  · show a.2 = b.2 + -d.offset.2
    omega

/-- Some direction leads from a tile to each of its neighbours. -/
theorem exists_leads (h : Adjacent a b) : ∃ d : Direction, d.Leads a b := by
  unfold Adjacent at h
  have hcases : (b.1 = a.1 ∧ b.2 = a.2 + 1) ∨ (b.1 = a.1 + -1 ∧ b.2 = a.2) ∨
      (b.1 = a.1 + 1 ∧ b.2 = a.2) ∨ (b.1 = a.1 ∧ b.2 = a.2 + -1) := by omega
  rcases hcases with ⟨hx, hy⟩ | ⟨hx, hy⟩ | ⟨hx, hy⟩ | ⟨hx, hy⟩
  · exact ⟨.down, by simpa [Leads, offset] using ⟨hx, hy⟩⟩
  · exact ⟨.left, by simpa [Leads, offset] using ⟨hx, hy⟩⟩
  · exact ⟨.right, by simpa [Leads, offset] using ⟨hx, hy⟩⟩
  · exact ⟨.up, by simpa [Leads, offset] using ⟨hx, hy⟩⟩

end Direction

section

variable {map : FieldMap} {p : Player} {d : Direction} {a b : Int × Int}

/-- The test for characters says whether there is one. -/
theorem Player.occupied_iff : occupied map a.1 a.2 = true ↔ map.HoldsCharacter a := by
  simp [occupied, FieldMap.HoldsCharacter, MapEvent.isAt, and_assoc]

/-- Where no character stands in the way, a player beside the map may step from a tile to the next
one exactly if it walks through everything, or the tiles on both ends allow it. -/
theorem Player.passable_aside_of_leads (hleads : d.Leads a b) (hb : map.valid b.1 b.2 = true)
    (hfree : ¬ map.HoldsCharacter b) :
    (p.moveTo (-1) (-1)).passable map a.1 a.2 d =
      (p.through || map.passable a.1 a.2 d none && map.passable b.1 b.2 d.reverse none) := by
  obtain ⟨hx, hy⟩ := hleads
  have hoccupied : occupied map b.1 b.2 = false := by
    rw [← Bool.not_eq_true, occupied_iff]
    exact hfree
  have haside : ((-1 : Int) == b.1) = false := by
    have hon := FieldMap.valid_iff.mp hb
    rw [beq_eq_false_iff_ne]
    omega
  simp only [passable, moveTo, ← hx, ← hy, hb, hoccupied, haside, Bool.true_and, Bool.false_and,
    Bool.not_false, Bool.and_true]

/-- A player beside the map may step from a tile to its neighbour exactly if it may step back, where
neither of them holds a character. -/
theorem Player.passable_aside_reverse (hleads : d.Leads a b) (ha : map.valid a.1 a.2 = true)
    (hb : map.valid b.1 b.2 = true) (hfreeA : ¬ map.HoldsCharacter a)
    (hfreeB : ¬ map.HoldsCharacter b) :
    (p.moveTo (-1) (-1)).passable map a.1 a.2 d =
      (p.moveTo (-1) (-1)).passable map b.1 b.2 d.reverse := by
  rw [passable_aside_of_leads hleads hb hfreeB, passable_aside_of_leads hleads.reverse ha hfreeA,
    Direction.reverse_reverse, Bool.and_comm (map.passable b.1 b.2 d.reverse none)]

end

/-- **Walls are two-sided.** In the grid of a map under the player's own rules, a tile is blocked
towards a neighbour exactly if the neighbour is blocked towards it, unless one of the two holds a
character that is an obstacle. Every direction that leads off the map is blocked, also for a player
who walks through everything. -/
theorem playerGrid_two_sided (map : FieldMap) (p : Player) :
    ∃ grid, playerGrid map p = (.ok grid, p) ∧
      (∀ a b : Int × Int, map.valid a.1 a.2 = true → map.valid b.1 b.2 = true → Adjacent a b →
        ¬ map.HoldsCharacter a → ¬ map.HoldsCharacter b →
        ∃ (d d' : Direction) (mask mask' : Nat), d.Leads a b ∧ d'.Leads b a ∧
          grid.mask? a.1 a.2 = some mask ∧ grid.mask? b.1 b.2 = some mask' ∧
          (mask.testBit d.bitIndex = true ↔ mask'.testBit d'.bitIndex = true)) ∧
      ∀ (a b : Int × Int) (d : Direction), map.valid a.1 a.2 = true → d.Leads a b →
        map.valid b.1 b.2 = false →
        ∃ mask, grid.mask? a.1 a.2 = some mask ∧ mask.testBit d.bitIndex = true := by
  obtain ⟨grid, hgrid, hmasks⟩ := playerGrid_mask_at map p
  refine ⟨grid, hgrid, ?_, ?_⟩
  · intro a b ha hb hadjacent hfreeA hfreeB
    obtain ⟨d, hleads⟩ := Direction.exists_leads hadjacent
    obtain ⟨mask, hmask, hbits⟩ := hmasks a.1 a.2 ha
    obtain ⟨mask', hmask', hbits'⟩ := hmasks b.1 b.2 hb
    refine ⟨d, d.reverse, mask, mask', hleads, hleads.reverse, hmask, hmask', ?_⟩
    rw [hbits, hbits', Player.passable_aside_reverse hleads ha hb hfreeA hfreeB]
  · rintro a b d ha ⟨hx, hy⟩ hoff
    obtain ⟨mask, hmask, hbits⟩ := hmasks a.1 a.2 ha
    refine ⟨mask, hmask, ?_⟩
    rw [hbits, Bool.not_eq_true', ← Bool.not_eq_true]
    intro hstep
    have hon := Player.valid_of_passable hstep
    rw [← hx, ← hy, hoff] at hon
    contradiction

/-- A guard is in the way of a step onto its tile, but not of the step away from it. -/
example :
    let guard : MapEvent :=
      { id := 1, name := "Guard", x := 1, y := 0, page := some 0
        pages := [{ graphic := { character := "guard" } }] }
    let map : FieldMap := { ground := .ofList 2 1 [], events := .ofList [guard] }
    let aside : Player := { x := -1, y := -1 }
    aside.passable map 0 0 .right = false ∧ aside.passable map 1 0 .left = true := by
  decide

end Overworld
