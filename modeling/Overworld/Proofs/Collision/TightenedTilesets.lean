import Overworld.Proofs.Collision.Questions

/-!
# Tightened tilesets

Giving the tiles of a tileset more passage bits closes ways and opens none. A tile that blocks a
direction goes on blocking it, and one that does not either comes to block it or says what it said
before. So the first verdict that decides about a place may come from another tile than before, but
it never turns a refusal into a permission, neither for the tiles on one end of a step nor for both.
-/

namespace Overworld

/-- A tileset in which every tile has at least the passage bits that it has in `t`, and the same
priority. -/
structure Tileset.TightenedTo (t t' : Tileset) : Prop where
  priority_eq : ∀ tile, t'.priority tile = t.priority tile
  passage_bits : ∀ tile bit, (t.passage tile).toNat.testBit bit = true →
    (t'.passage tile).toNat.testBit bit = true

/-- A tile does not let anybody leave in a direction: it has the passage bit of the direction, or
all four of them. -/
def Tileset.Blocks (t : Tileset) (d : Direction) (tile : UInt16) : Prop :=
  (t.passage tile).toNat.testBit d.bitIndex = true ∨
    ∀ bit < 4, (t.passage tile).toNat.testBit bit = true

/-- All of the low four bits are set if they add up to fifteen. -/
theorem mod_sixteen_eq_iff (n : Nat) : n % 16 = 15 ↔ ∀ bit < 4, n.testBit bit = true := by
  have hlow (bit : Nat) : (n % 16).testBit bit = (decide (bit < 4) && n.testBit bit) :=
    Nat.testBit_mod_two_pow n 4 bit
  have hall (bit : Nat) : Nat.testBit 15 bit = decide (bit < 4) := Nat.testBit_two_pow_sub_one 4 bit
  constructor
  · intro h bit hbit
    have hset := hlow bit
    rw [h, hall] at hset
    simpa [hbit] using hset.symm
  · intro h
    refine Nat.eq_of_testBit_eq fun bit => ?_
    rw [hlow, hall]
    by_cases hbit : bit < 4
    · simp [hbit, h bit hbit]
    · simp [hbit]

namespace Tileset

variable {t t' : Tileset} {d : Direction} {tile : UInt16}

/-- A tile that blocks a direction says so. -/
theorem verdict_of_blocks (h : t.Blocks d tile) : t.verdict d tile = .blocked := by
  refine if_pos ?_
  simpa [Blocks, mod_sixteen_eq_iff] using h

/-- A tile that does not block a direction leaves it to its priority what it says. -/
theorem verdict_of_not_blocks (h : ¬ t.Blocks d tile) :
    t.verdict d tile = if t.priority tile = 0 then .free else .undecided := by
  refine if_neg ?_
  simpa [Blocks, mod_sixteen_eq_iff] using h

namespace TightenedTo

/-- What blocks a direction goes on blocking it. -/
theorem blocks (h : t.TightenedTo t') (hblocks : t.Blocks d tile) : t'.Blocks d tile :=
  hblocks.imp (h.passage_bits tile _) fun hall bit hbit => h.passage_bits tile bit (hall bit hbit)

/-- A tile comes to block a direction, or says what it said before. -/
theorem verdict (h : t.TightenedTo t') (d : Direction) (tile : UInt16) :
    t'.verdict d tile = .blocked ∨ t'.verdict d tile = t.verdict d tile := by
  by_cases hblocks : t'.Blocks d tile
  · exact .inl (verdict_of_blocks hblocks)
  · right
    rw [verdict_of_not_blocks hblocks, verdict_of_not_blocks (mt h.blocks hblocks), h.priority_eq]

end TightenedTo

end Tileset

/-- If some of those who are asked come to refuse, and the others say what they said before, then
nothing is permitted that was refused before. -/
theorem TileVerdict.settle_map_of_refuse {α : Type} {f g : α → TileVerdict}
    (h : ∀ a, g a = .blocked ∨ g a = f a) {asked : List α} (hsettle : settle (asked.map g) = true) :
    settle (asked.map f) = true := by
  induction asked with
  | nil => rfl
  | cons a rest ih =>
    rw [List.map_cons] at hsettle ⊢
    rcases h a with hrefused | hsame
    · rw [hrefused] at hsettle
      contradiction
    · rw [hsame] at hsettle
      cases hverdict : f a with
      | blocked =>
        rw [hverdict] at hsettle
        contradiction
      | free => rfl
      | undecided =>
        rw [hverdict] at hsettle
        exact ih hsettle

/-- A mask contains another one if its directions contain those of the other. -/
theorem Direction.testBit_maskOf_mono {blocked blocked' : Direction → Bool}
    (h : ∀ d, blocked d = true → blocked' d = true) {bit : Nat}
    (hbit : (maskOf blocked).testBit bit = true) : (maskOf blocked').testBit bit = true := by
  have hlow : bit < 4 := by
    by_contra hhigh
    have hsmall : maskOf blocked < 2 ^ bit := calc
      maskOf blocked < 2 ^ 4 := maskOf_lt blocked
      _ ≤ 2 ^ bit := Nat.pow_le_pow_right (by decide) (by omega)
    rw [Nat.testBit_lt_two_pow hsmall] at hbit
    contradiction
  obtain ⟨d, rfl⟩ : ∃ d : Direction, bit = d.bitIndex := by
    obtain rfl | rfl | rfl | rfl : bit = 0 ∨ bit = 1 ∨ bit = 2 ∨ bit = 3 := by omega
    · exact ⟨.down, rfl⟩
    · exact ⟨.left, rfl⟩
    · exact ⟨.right, rfl⟩
    · exact ⟨.up, rfl⟩
  rw [testBit_maskOf] at hbit ⊢
  exact h d hbit

section

variable {map : FieldMap} {p : Player} {t t' : Tileset}

/-- Tightening the tileset of a map opens no place of it. -/
theorem FieldMap.passable_of_tightened (h : t.TightenedTo t') {x y : Int} {d : Direction}
    {self : Option UInt32}
    (hpassable : { map with tileset := t' }.passable x y d self = true) :
    { map with tileset := t }.passable x y d self = true := by
  obtain ⟨hvalid, hsettle⟩ := Bool.and_eq_true_iff.mp hpassable
  refine Bool.and_eq_true_iff.mpr ⟨hvalid, ?_⟩
  refine TileVerdict.settle_map_of_refuse (fun tile => ?_) hsettle
  cases tile with
  | none => exact .inl rfl
  | some tile => exact h.verdict d tile

/-- Tightening the tileset of a map makes no step possible on it. -/
theorem Player.passable_of_tightened (h : t.TightenedTo t') {x y : Int} {d : Direction}
    (hpassable : p.passable { map with tileset := t' } x y d = true) :
    p.passable { map with tileset := t } x y d = true := by
  unfold passable at hpassable ⊢
  obtain ⟨hvalid, hrules⟩ := Bool.and_eq_true_iff.mp hpassable
  refine Bool.and_eq_true_iff.mpr ⟨hvalid, ?_⟩
  rcases Bool.or_eq_true_iff.mp hrules with hthrough | hrules
  · rw [hthrough, Bool.true_or]
  · simp only [Bool.and_eq_true] at hrules
    obtain ⟨⟨⟨hhere, hthere⟩, hoccupied⟩, hself⟩ := hrules
    refine Bool.or_eq_true_iff.mpr (.inr ?_)
    simp only [Bool.and_eq_true]
    exact ⟨⟨⟨FieldMap.passable_of_tightened h hhere, FieldMap.passable_of_tightened h hthere⟩,
      hoccupied⟩, hself⟩

end

/-- **Blocking more never opens a way.** Where a tileset is tightened, every place that could not be
left in a direction still cannot be left in it, every step that the player was refused is still
refused, and every mask of the collision grid is contained in the mask of the same tile in the
tightened grid, which covers the same tiles. -/
theorem tightened_tileset_opens_nothing (map : FieldMap) (p : Player) (t t' : Tileset)
    (h : t.TightenedTo t') :
    let before := { map with tileset := t }
    let after := { map with tileset := t' }
    (∀ x y d self, before.passable x y d self = false → after.passable x y d self = false) ∧
    (∀ x y d, p.passable before x y d = false → p.passable after x y d = false) ∧
    ∃ grid grid', playerGrid before p = (.ok grid, p) ∧ playerGrid after p = (.ok grid', p) ∧
      grid'.width = grid.width ∧ grid'.height = grid.height ∧
      ∀ x y mask, grid.mask? x y = some mask → ∃ mask', grid'.mask? x y = some mask' ∧
        ∀ bit, mask.testBit bit = true → mask'.testBit bit = true := by
  intro before after
  refine ⟨fun x y d self hrefused => ?_, fun x y d hrefused => ?_, _, _, playerGrid_eq before p,
    playerGrid_eq after p, rfl, rfl, fun x y mask hmask => ?_⟩
  · rw [← Bool.not_eq_true] at hrefused ⊢
    exact mt (FieldMap.passable_of_tightened h) hrefused
  · rw [← Bool.not_eq_true] at hrefused ⊢
    exact mt (Player.passable_of_tightened h) hrefused
  · have hvalid : before.valid x y = true := by
      by_contra hoff
      rw [Bool.not_eq_true, ← CollisionGrid.get?_ofMasks_eq_none before _ x y] at hoff
      rw [CollisionGrid.mask?, hoff] at hmask
      contradiction
    have hon := FieldMap.valid_iff.mp hvalid
    have hon' : 0 ≤ x ∧ x < after.width ∧ 0 ≤ y ∧ y < after.height := hon
    rw [CollisionGrid.mask?_ofMasks (Direction.maskOf_lt _) hon, Option.some.injEq] at hmask
    refine ⟨_, CollisionGrid.mask?_ofMasks (Direction.maskOf_lt _) hon', fun bit hbit => ?_⟩
    rw [← hmask] at hbit
    refine Direction.testBit_maskOf_mono (fun d hrefused => ?_) hbit
    rw [Bool.not_eq_true', ← Bool.not_eq_true] at hrefused ⊢
    exact mt (Player.passable_of_tightened h) hrefused

/-- A tileset with a ladder as tile 1 that can be left in every direction, above tiles that leave
the decision to those below. -/
private def openLadders : Tileset := { id := 1, passages := [0, 0], priorities := [1] }

/-- The ladder cannot be left downwards, and tile 2, which was not listed before, is a wall. -/
private def closedLadders : Tileset := { id := 1, passages := [0, 1, 15], priorities := [1] }

/-- A map of one column with a ladder on its upper tile. -/
private def shaft : FieldMap := { ground := .ofList 1 2 [2, 0, 0, 0, 1, 0] }

/-- Closing the ladder takes the step down from it away and nothing opens. -/
theorem closed_ladder_opens_nothing :
    let hero : Player := {}
    let before := { shaft with tileset := openLadders }
    let after := { shaft with tileset := closedLadders }
    openLadders.TightenedTo closedLadders ∧
      (hero.passable before 0 0 .down = true ∧ hero.passable after 0 0 .down = false) ∧
      (∀ x y d self, before.passable x y d self = false → after.passable x y d self = false) ∧
      (∀ x y d, hero.passable before x y d = false → hero.passable after x y d = false) ∧
      ∃ grid grid', playerGrid before hero = (.ok grid, hero) ∧
        playerGrid after hero = (.ok grid', hero) ∧ grid'.width = grid.width ∧
        grid'.height = grid.height ∧
        ∀ x y mask, grid.mask? x y = some mask → ∃ mask', grid'.mask? x y = some mask' ∧
          ∀ bit, mask.testBit bit = true → mask'.testBit bit = true := by
  intro hero before after
  have htightened : openLadders.TightenedTo closedLadders := by
    refine ⟨fun _ => rfl, fun tile bit hbit => ?_⟩
    -- No tile has a passage bit before.
    have hopen : openLadders.passage tile = 0 := by
      unfold Tileset.passage openLadders
      rcases tile.toNat with _ | _ | n <;> rfl
    rw [hopen] at hbit
    simp at hbit
  exact ⟨htightened, by decide,
    tightened_tileset_opens_nothing shaft hero openLadders closedLadders htightened⟩

end Overworld
