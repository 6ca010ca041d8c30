import Overworld.Proofs.Collision.Movement
import Overworld.Proofs.Map.TileSlots

/-!
# Scrolling to a tile

A map that is scrolled to a tile shows the tile in the middle of the screen, unless that would show
what lies beyond an edge of the map: then it stands at that edge, and at the first edge if it would
have to stand at both. In each of the three positions the whole tile is on the screen. The two axes
do not know of each other, so everything is said of one of them.
-/

namespace Overworld

/-- A difference that fits into a word is computed there. -/
theorem FitsWord.toInt_sub {a b : Int32} (h : FitsWord (a.toInt - b.toInt)) :
    (a - b).toInt = a.toInt - b.toInt := by
  obtain ⟨hlow, hhigh⟩ := fitsWord_iff.mp h
  rw [Int32.toInt_sub]
  exact Int.bmod_eq_of_le (by omega) (by omega)

namespace FieldMap

/-- The scroll position on one axis that shows a tile in the middle of the screen, computed in words
of 32 bits with a sign. -/
def centeredWord (tile side screen : Int32) : Int32 :=
  let middle := (screen / 2 - 16) * 4
  let last := (side - screen / 32) * 128
  max (min (tile * 128 - middle) last) 0

/-- What is computed on the way to a scroll position fits into words. -/
structure StaysInWords (tile side screen : Int) : Prop where
  middle : FitsWord ((screen / 2 - 16) * 4)
  last : FitsWord ((side - screen / 32) * 128)
  corner : FitsWord (tile * 128)
  position : FitsWord (tile * 128 - (screen / 2 - 16) * 4)

/-- A scroll position lets the screen show the whole of a tile. -/
def Shows (position screen tile : Int) : Prop :=
  position ≤ 128 * tile ∧ 128 * tile + 128 ≤ position + 4 * screen

variable {tile side screen : Int}

/-- On a screen of at least one tile, divisions are those of natural numbers. -/
theorem centered_eq (hscreen : 32 ≤ screen) :
    centered tile side screen =
      max (min (tile * 128 - (screen / 2 - 16) * 4) ((side - screen / 32) * 128)) 0 := by
  have hhalf : screen.tdiv 2 = screen / 2 := Int.tdiv_eq_ediv_of_nonneg (by omega)
  have htiles : screen.tdiv 32 = screen / 32 := Int.tdiv_eq_ediv_of_nonneg (by omega)
  rw [← hhalf, ← htiles]
  rfl

/-- A scroll position stands at the first edge, at the last edge, or between them with the tile in
the middle. It stands at the first edge if the tile is close to it or the map is no larger than the
screen. -/
theorem centered_cases (tile side : Int) (hscreen : 32 ≤ screen) :
    (centered tile side screen = 0 ∧ (tile * 128 ≤ (screen / 2 - 16) * 4 ∨ side ≤ screen / 32)) ∨
    (centered tile side screen = (side - screen / 32) * 128 ∧ screen / 32 < side ∧
      (side - screen / 32) * 128 ≤ tile * 128 - (screen / 2 - 16) * 4) ∨
    (centered tile side screen = tile * 128 - (screen / 2 - 16) * 4 ∧
      0 < tile * 128 - (screen / 2 - 16) * 4 ∧
      tile * 128 - (screen / 2 - 16) * 4 < (side - screen / 32) * 128) := by
  rw [centered_eq hscreen]
  omega

/-- A scroll position does not leave the map: it stands between the edges. -/
theorem centered_mem_range (tile side : Int) (hscreen : 32 ≤ screen) :
    0 ≤ centered tile side screen ∧
      centered tile side screen ≤ max 0 ((side - screen / 32) * 128) := by
  rcases centered_cases tile side hscreen with
    ⟨hfirst, -⟩ | ⟨hlast, hside, -⟩ | ⟨hmiddle, hlow, hhigh⟩
  · rw [hfirst]
    omega
  · rw [hlast]
    omega
  · rw [hmiddle]
    omega

/-- A map that is no larger than the screen is not scrolled. -/
theorem centered_of_small (hscreen : 32 ≤ screen) (hsmall : side * 32 ≤ screen) :
    centered tile side screen = 0 := by
  have hrange := centered_mem_range tile side hscreen
  omega

/-- At the first edge a tile is shown that is close to it, and every tile of a map that is no larger
than the screen. -/
theorem shows_at_first (hscreen : 32 ≤ screen) (htile : 0 ≤ tile ∧ tile < side)
    (hfirst : tile * 128 ≤ (screen / 2 - 16) * 4 ∨ side ≤ screen / 32) : Shows 0 screen tile := by
  unfold Shows
  omega

/-- At the last edge a tile is shown that is no further from it than from the middle of the
screen. -/
theorem shows_at_last (hscreen : 32 ≤ screen) (htile : tile < side)
    (hlast : (side - screen / 32) * 128 ≤ tile * 128 - (screen / 2 - 16) * 4) :
    Shows ((side - screen / 32) * 128) screen tile := by
  unfold Shows
  omega

/-- In the middle of the screen the whole of a tile is shown. -/
theorem shows_in_middle (hscreen : 32 ≤ screen) :
    Shows (tile * 128 - (screen / 2 - 16) * 4) screen tile := by
  unfold Shows
  omega

/-- A tile of the map is shown after scrolling to it. -/
theorem shows_centered (hscreen : 32 ≤ screen) (htile : 0 ≤ tile ∧ tile < side) :
    Shows (centered tile side screen) screen tile := by
  rcases centered_cases tile side hscreen with
    ⟨hposition, hfirst⟩ | ⟨hposition, -, hlast⟩ | ⟨hposition, -⟩
  · rw [hposition]
    exact shows_at_first hscreen htile hfirst
  · rw [hposition]
    exact shows_at_last hscreen htile.2 hlast
  · rw [hposition]
    exact shows_in_middle hscreen

/-- The greater of two words. -/
theorem toInt_max_word (a b : Int32) : (max a b).toInt = max a.toInt b.toInt := by
  show (if a ≤ b then b else a).toInt = _
  split <;> rename_i h <;> rw [Int32.le_iff_toInt_le] at h <;> omega

/-- The smaller of two words. -/
theorem toInt_min_word (a b : Int32) : (min a b).toInt = min a.toInt b.toInt := by
  show (if a ≤ b then a else b).toInt = _
  split <;> rename_i h <;> rw [Int32.le_iff_toInt_le] at h <;> omega

/-- Dividing a word that is not negative by a positive one does not overflow. -/
theorem toInt_div_word {a b : Int32} (ha : 0 ≤ a.toInt) (hb : 0 < b.toInt) :
    (a / b).toInt = a.toInt / b.toInt := by
  have hne : b ≠ -1 := by
    rintro rfl
    exact absurd hb (by decide)
  rw [Int32.toInt_div_of_ne_right a b hne, Int.tdiv_eq_ediv_of_nonneg ha]

/-- The scroll position that is computed in words is the scroll position, if what is computed on the
way fits into words. -/
theorem toInt_centeredWord {tile screen : Int32} {side : Nat} (hside : side ≤ maxMapSide)
    (hscreen : 32 ≤ screen.toInt) (hwords : StaysInWords tile.toInt side screen.toInt) :
    (centeredWord tile (Int32.ofNat side) screen).toInt =
      centered tile.toInt side screen.toInt := by
  have hmax : maxMapSide = 2048 := rfl
  have hword : screen.toInt < 2 ^ 31 := screen.toInt_lt
  have hhalf : (screen / 2).toInt = screen.toInt / 2 := toInt_div_word (by omega) (by decide)
  have htiles : (screen / 32).toInt = screen.toInt / 32 := toInt_div_word (by omega) (by decide)
  have hinset : (screen / 2 - 16).toInt = screen.toInt / 2 - 16 := by
    rw [← hhalf]
    refine FitsWord.toInt_sub (fitsWord_iff.mpr ?_)
    show -2147483648 ≤ (screen / 2).toInt - 16 ∧ (screen / 2).toInt - 16 ≤ 2147483647
    omega
  have hbeyond : (Int32.ofNat side - screen / 32).toInt = side - screen.toInt / 32 := by
    rw [← htiles, ← TileStore.toInt_ofNat_side hside]
    refine FitsWord.toInt_sub (fitsWord_iff.mpr ?_)
    rw [TileStore.toInt_ofNat_side hside]
    omega
  have hmiddle : ((screen / 2 - 16) * 4).toInt = (screen.toInt / 2 - 16) * 4 := by
    rw [← hinset]
    refine FitsWord.toInt_mul ?_
    rw [hinset]
    exact hwords.middle
  have hlast : ((Int32.ofNat side - screen / 32) * 128).toInt =
      (side - screen.toInt / 32) * 128 := by
    rw [← hbeyond]
    refine FitsWord.toInt_mul ?_
    rw [hbeyond]
    exact hwords.last
  have hcorner : (tile * 128).toInt = tile.toInt * 128 := FitsWord.toInt_mul hwords.corner
  have hposition : (tile * 128 - (screen / 2 - 16) * 4).toInt =
      tile.toInt * 128 - (screen.toInt / 2 - 16) * 4 := by
    rw [← hcorner, ← hmiddle]
    refine FitsWord.toInt_sub ?_
    rw [hcorner, hmiddle]
    exact hwords.position
  rw [centered_eq hscreen, ← hposition, ← hlast, centeredWord, toInt_max_word, toInt_min_word]
  rfl

/-- **Scrolling to a tile keeps it on the screen and the screen on the map.** On a screen of at
least one tile, each scroll position is between the edges of the map, and 0 where the map is no
larger than the screen; a tile of the map is shown as a whole. As long as nothing overflows,
computing in words gives the same positions. -/
theorem centerOn_shows_tile (m : FieldMap) (x y : Int) (screen : Screen)
    (hwidth : 32 ≤ screen.width) (hheight : 32 ≤ screen.height) :
    let m' := m.centerOn x y screen
    (0 ≤ m'.displayX ∧ m'.displayX ≤ max 0 ((m.width - screen.width / 32) * 128)) ∧
    (0 ≤ m'.displayY ∧ m'.displayY ≤ max 0 ((m.height - screen.height / 32) * 128)) ∧
    (m.width * 32 ≤ screen.width → m'.displayX = 0) ∧
    (m.height * 32 ≤ screen.height → m'.displayY = 0) ∧
    (m.valid x y = true →
      (m'.displayX ≤ 128 * x ∧ 128 * x + 128 ≤ m'.displayX + 4 * screen.width) ∧
      (m'.displayY ≤ 128 * y ∧ 128 * y + 128 ≤ m'.displayY + 4 * screen.height)) ∧
    ∀ tileX tileY screenX screenY : Int32, tileX.toInt = x → tileY.toInt = y →
      screenX.toInt = screen.width → screenY.toInt = screen.height →
      StaysInWords x m.width screen.width → StaysInWords y m.height screen.height →
      (centeredWord tileX (Int32.ofNat m.width) screenX).toInt = m'.displayX ∧
      (centeredWord tileY (Int32.ofNat m.height) screenY).toInt = m'.displayY := by
  intro m'
  refine ⟨centered_mem_range x m.width hwidth, centered_mem_range y m.height hheight,
    centered_of_small hwidth, centered_of_small hheight, fun hvalid => ?_, ?_⟩
  · obtain ⟨hleft, hright, htop, hbottom⟩ := valid_iff.mp hvalid
    exact ⟨shows_centered hwidth ⟨hleft, hright⟩, shows_centered hheight ⟨htop, hbottom⟩⟩
  · rintro tileX tileY screenX screenY rfl rfl hscreenX hscreenY hwordsX hwordsY
    constructor
    · rw [← hscreenX] at hwidth hwordsX
      have hword := toInt_centeredWord m.ground.width_le hwidth hwordsX
      rw [hscreenX] at hword
      exact hword
    · rw [← hscreenY] at hheight hwordsY
      have hword := toInt_centeredWord m.ground.height_le hheight hwordsY
      rw [hscreenY] at hword
      exact hword

/-- On a screen whose sides are no multiples of a tile, the last tile of a map that is wider and
lower than the screen is shown at the last edge of one axis and the first edge of the other. -/
theorem last_tile_shown :
    let m : FieldMap := { ground := .ofList 40 5 [] }
    let m' := m.centerOn 39 4 { width := 650, height := 330 }
    ((32 : Int) ≤ 650 ∧ (32 : Int) ≤ 330) ∧ m.valid 39 4 = true ∧
      (m'.displayX ≤ 128 * 39 ∧ 128 * 39 + 128 ≤ m'.displayX + 4 * 650) ∧
      (m'.displayY ≤ 128 * 4 ∧ 128 * 4 + 128 ≤ m'.displayY + 4 * 330) ∧
      (centeredWord 39 40 650).toInt = m'.displayX ∧ (centeredWord 4 5 330).toInt = m'.displayY ∧
      m'.displayX = 2560 ∧ m'.displayY = 0 := by
  intro m m'
  have hvalid : m.valid 39 4 = true := by decide
  have hshown := centerOn_shows_tile m 39 4 { width := 650, height := 330 } (by decide) (by decide)
  obtain ⟨-, -, -, -, hplace, hwords⟩ := hshown
  have hwordsX : StaysInWords 39 m.width 650 := by
    constructor <;> exact fitsWord_iff.mpr (by decide)
  have hwordsY : StaysInWords 4 m.height 330 := by
    constructor <;> exact fitsWord_iff.mpr (by decide)
  obtain ⟨hx, hy⟩ := hwords 39 4 650 330 rfl rfl rfl rfl hwordsX hwordsY
  exact ⟨by decide, hvalid, (hplace hvalid).1, (hplace hvalid).2, hx, hy, by decide, by decide⟩

end FieldMap

end Overworld
