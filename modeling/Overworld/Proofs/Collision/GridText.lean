import Overworld.Proofs.Collision.Questions

/-!
# Grids as text

A collision grid can be written as text, a line for each row and a character for each tile. No
two masks share a character and no character ends a line, so the text can be read back tile by
tile, and two grids of one size that differ are told apart by their texts.
-/

namespace Overworld

namespace CollisionGrid

/-- The mask that a character stands for, if it stands for one. -/
def maskOfChar? (c : Char) : Option Nat :=
  if c = '.' then some 0
  else if '0' ≤ c ∧ c ≤ '9' then some (c.toNat - '0'.toNat)
  else if 'a' ≤ c ∧ c ≤ 'f' then some (c.toNat - 'a'.toNat + 10)
  else none

/-- What a text says in a column of a line, both counted from 0, read as a mask. -/
def readMask? (text : String) (x y : Nat) : Option Nat :=
  ((text.toList.splitOn '\n')[y]?.bind (·[x]?)).bind maskOfChar?

/-- The grid is the result of some survey of some map, whatever was asked and answered. -/
def Surveyed (grid : CollisionGrid) : Prop :=
  ∃ (σ ε : Type) (query : MovementQuery (StateM σ) ε) (map : FieldMap) (player player' : Player)
    (s s' : σ), Yields (surveyGrid query map player) s (.ok grid, player') s'

/-- A survey gives the grid of some masks. -/
theorem Surveyed.eq_ofMasks {grid : CollisionGrid} (h : grid.Surveyed) :
    ∃ width height masks, (∀ x y, masks x y < 16) ∧ grid = ofMasks width height masks := by
  obtain ⟨σ, ε, query, map, player, player', s, s', hsurvey⟩ := h
  have hnodup : (Question.aboutTiles (tilesOf map.width map.height)).Nodup :=
    (Question.pairwise_aboutTiles map.width map.height).imp Question.Before.ne
  obtain ⟨answer, outcome, s₁, hinterview⟩ :=
    Interview.exists_of_nodup (query map (player.moveTo (-1) (-1))) hnodup s
  obtain ⟨hsame, -⟩ := hsurvey.unique hinterview.surveyGrid
  cases outcome with
  | error e => cases hsame
  | ok _ =>
    obtain ⟨rfl, -⟩ : _ = grid ∧ _ := by simpa [Except.map] using hsame
    exact ⟨_, _, _, fun _ _ => Direction.maskOf_lt _, rfl⟩

section

variable {mask : Nat} (hmask : mask < 16)
include hmask

/-- A mask is read from its own character. -/
theorem maskOfChar?_maskChar : maskOfChar? (maskChar mask) = some mask := by
  revert mask
  decide

/-- No mask is written as the end of a line. -/
theorem maskChar_ne_newline : maskChar mask ≠ '\n' := by
  revert mask
  decide

/-- Only the empty mask is written as a point. -/
theorem maskChar_eq_point_iff : maskChar mask = '.' ↔ mask = 0 := by
  revert mask
  decide

end

/-- The cell of a tile is 0 if the tile is open on all sides. -/
theorem cellOfMask_eq_zero_iff {mask : Nat} : cellOfMask mask = 0 ↔ mask = 0 := by
  unfold cellOfMask
  split <;> simp [*]

/-- Lines that are written one after the other can be told apart again. -/
theorem splitOn_lines {lines : List (List Char)} (h : ∀ line ∈ lines, '\n' ∉ line) :
    (lines.flatMap (· ++ ['\n'])).splitOn '\n' = lines ++ [[]] := by
  induction lines with
  | nil => rfl
  | cons line lines ih =>
    obtain ⟨hline, hlines⟩ := List.forall_mem_cons.mp h
    rw [List.flatMap_cons, List.append_assoc, List.singleton_append,
      List.splitOn_append_cons_self_of_not_mem hline, ih hlines, List.cons_append]

/-- The ends of lines do not count. -/
theorem countP_lines {p : Char → Bool} (hp : p '\n' = false) (lines : List (List Char)) :
    (lines.flatMap (· ++ ['\n'])).countP p = lines.flatten.countP p := by
  induction lines with
  | nil => rfl
  | cons line lines ih => simp [List.countP_append, hp, ih]

/-- The characters that are written for a row of masks. -/
def lineOf (width : Nat) (masks : Int → Int → Nat) (y : Nat) : List Char :=
  (List.range width).map fun x : Nat => maskChar (masks x y)

/-- The characters of all rows are those of the masks, row by row. -/
theorem flatten_lines (width height : Nat) (masks : Int → Int → Nat) :
    ((List.range height).map (lineOf width masks)).flatten =
      (tilesOf width height).map fun tile => maskChar (masks tile.1 tile.2) := by
  simp only [tilesOf, List.map_flatMap, List.map_map, ← List.flatMap_def]
  rfl

section

variable {width height : Nat} {masks masks' : Int → Int → Nat} (hmasks : ∀ x y, masks x y < 16)
include hmasks

/-- No line is ended by a mask. -/
theorem newline_not_mem_lineOf (y : Nat) : '\n' ∉ lineOf width masks y := by
  intro hmem
  obtain ⟨x, -, hx⟩ := List.mem_map.mp hmem
  exact maskChar_ne_newline (hmasks x y) hx

/-- The text of a grid is made of the lines of its rows. -/
theorem toText_ofMasks : (ofMasks width height masks).toText.toList =
    ((List.range height).map (lineOf width masks)).flatMap (· ++ ['\n']) := by
  rw [toText, String.toList_ofList, List.flatMap_map]
  refine List.flatMap_congr fun y hy => congrArg (· ++ ['\n']) (List.map_congr_left fun x hx => ?_)
  have hy : y < height := List.mem_range.mp hy
  have hx : x < width := List.mem_range.mp hx
  rw [mask?_ofMasks (hmasks x y) (by omega), Option.getD_some]

/-- What is read from the text of a grid is the mask that was written there. -/
theorem readMask?_toText {x y : Nat} (hx : x < width) (hy : y < height) :
    readMask? (ofMasks width height masks).toText x y = some (masks x y) := by
  have hlines : ∀ line ∈ (List.range height).map (lineOf width masks), '\n' ∉ line := by
    intro line hline
    obtain ⟨y, -, rfl⟩ := List.mem_map.mp hline
    exact newline_not_mem_lineOf hmasks y
  have hline : ((List.range height).map (lineOf width masks) ++ [[]])[y]? =
      some (lineOf width masks y) := by
    rw [List.getElem?_append_left (by simpa using hy)]
    simp [hy]
  rw [readMask?, toText_ofMasks hmasks, splitOn_lines hlines, hline, Option.bind_some]
  simp [lineOf, hx, maskOfChar?_maskChar (hmasks x y)]

/-- The characters of a grid that are neither points nor ends of lines are those of the tiles that
are blocked on some side. -/
theorem countP_toText :
    (ofMasks width height masks).toText.toList.countP (fun c => c ≠ '.' ∧ c ≠ '\n') =
      (ofMasks width height masks).blockedTiles := by
  rw [toText_ofMasks hmasks, countP_lines (by decide), flatten_lines, blockedTiles, ofMasks,
    List.countP_map, List.countP_map]
  refine List.countP_congr fun tile _ => ?_
  have hmask := hmasks tile.1 tile.2
  simp [maskChar_eq_point_iff hmask, maskChar_ne_newline hmask, cellOfMask_eq_zero_iff]

/-- Grids of one size with the same text have the same masks, and so are the same. -/
theorem ofMasks_eq_of_toText (hmasks' : ∀ x y, masks' x y < 16)
    (h : (ofMasks width height masks).toText = (ofMasks width height masks').toText) :
    ofMasks width height masks = ofMasks width height masks' := by
  have hsame : ∀ tile ∈ tilesOf width height, masks tile.1 tile.2 = masks' tile.1 tile.2 := by
    intro tile htile
    obtain ⟨hx, hy⟩ := mem_tilesOf.mp htile
    have hread := readMask?_toText hmasks hx hy
    rw [h, readMask?_toText hmasks' hx hy] at hread
    exact (Option.some.inj hread).symm
  have hcells := List.map_congr_left fun tile htile => congrArg cellOfMask (hsame tile htile)
  rw [ofMasks, hcells]
  rfl

end

/-- **The text of a grid loses nothing.** The text of a grid that a survey gives has exactly one
line for each row, with exactly one character for each tile, and every line is ended. What is read
in a column of a line is the mask of that tile, and its cell is 0 where the mask is empty and 384
more than the mask elsewhere. The characters that are neither points nor ends of lines are as many
as the tiles that are blocked on some side. Two grids of one size, both given by surveys, have the
same text exactly if they are the same. -/
theorem toText_lossless {grid : CollisionGrid} (h : grid.Surveyed) :
    (∃ lines : List (List Char), grid.toText.toList = lines.flatMap (· ++ ['\n']) ∧
      lines.length = grid.height ∧ ∀ line ∈ lines, line.length = grid.width ∧ '\n' ∉ line) ∧
    (∀ x y : Nat, x < grid.width → y < grid.height → ∃ mask < 16,
      readMask? grid.toText x y = some mask ∧ grid.mask? x y = some mask ∧
      grid.get? x y = some (if mask = 0 then 0 else 384 + mask)) ∧
    grid.toText.toList.countP (fun c => c ≠ '.' ∧ c ≠ '\n') = grid.blockedTiles ∧
    ∀ other : CollisionGrid, other.Surveyed → other.width = grid.width →
      other.height = grid.height → (other.toText = grid.toText ↔ other = grid) := by
  obtain ⟨width, height, masks, hmasks, rfl⟩ := h.eq_ofMasks
  refine ⟨⟨_, toText_ofMasks hmasks, ?_, ?_⟩, ?_, countP_toText hmasks, ?_⟩
  · rw [List.length_map, List.length_range]
    rfl
  · intro line hline
    obtain ⟨y, -, rfl⟩ := List.mem_map.mp hline
    refine ⟨?_, newline_not_mem_lineOf hmasks y⟩
    rw [lineOf, List.length_map, List.length_range]
    rfl
  · intro x y hx hy
    have hx : x < width := hx
    have hy : y < height := hy
    exact ⟨masks x y, hmasks x y, readMask?_toText hmasks hx hy,
      mask?_ofMasks (hmasks x y) (by omega), get?_ofMasks (by omega)⟩
  · intro other hother hwidth hheight
    obtain ⟨width', height', masks', hmasks', rfl⟩ := hother.eq_ofMasks
    obtain rfl : width' = width := hwidth
    obtain rfl : height' = height := hheight
    exact ⟨ofMasks_eq_of_toText hmasks' hmasks, fun hsame => by rw [hsame]⟩

/-- Two tiles, of which the first can be left only downwards and to the right. -/
private def shore : CollisionGrid := { width := 2, height := 1, cells := #[394, 0] }

/-- The mask and the cell of the first tile are read back from the text of the grid, in which one
character is more than form. -/
theorem toText_lossless_shore :
    readMask? shore.toText 0 0 = some 10 ∧ shore.get? 0 0 = some (384 + 10) ∧
      shore.toText.toList.countP (fun c => c ≠ '.' ∧ c ≠ '\n') = 1 := by
  have hsurveyed : shore.Surveyed :=
    ⟨Unit, Unit, fun _ _ x _ d => return .ok (x ≠ 0 ∨ d = .down ∨ d = .right),
      { ground := .ofList 2 1 [] }, {}, {}, (), (), rfl⟩
  obtain ⟨-, hread, hcount, -⟩ := toText_lossless hsurveyed
  obtain ⟨mask, -, htext, hmask, hcell⟩ := hread 0 0 (by decide) (by decide)
  obtain rfl : 10 = mask := Option.some.inj hmask
  exact ⟨htext, hcell, hcount⟩

end CollisionGrid

end Overworld
