import Overworld.Proofs.Collision.Movement
import Overworld.Proofs.Surroundings

/-!
# What a survey asks

A survey is an interview about every tile and direction of a map. The one who is asked may be in any
state, may change it with every answer, and may fail; the first failure ends the interview and is
its result. If every question is answered the grid is exactly what the answers say, whoever gave
them. The player is back in its place in both cases.
-/

namespace Overworld

/-- A question of a survey: may the player leave this tile in this direction? -/
structure Question where
  x : Nat
  y : Nat
  direction : Direction
  deriving DecidableEq, Inhabited

namespace Question

/-- The order of the questions of a survey: row by row from the top, in a row from the left, and
about one tile in the order of the mask bits, which is down, left, right, up. -/
def Before (p q : Question) : Prop :=
  p.y < q.y ∨ p.y = q.y ∧ (p.x < q.x ∨ p.x = q.x ∧ p.direction.bitIndex < q.direction.bitIndex)

/-- The questions about a tile. -/
def aboutTile (tile : Nat × Nat) : List Question := Direction.all.map (Question.mk tile.1 tile.2)

/-- The questions about some tiles, one tile after the other. -/
def aboutTiles (tiles : List (Nat × Nat)) : List Question := tiles.flatMap aboutTile

/-- No question comes before itself. -/
theorem Before.ne {p q : Question} (h : p.Before q) : p ≠ q := by
  rintro rfl
  unfold Before at h
  omega

end Question

/-- The tiles of a rectangle stand row by row from the top, and in a row from the left. -/
theorem pairwise_tilesOf (width height : Nat) :
    (tilesOf width height).Pairwise fun a b => a.2 < b.2 ∨ a.2 = b.2 ∧ a.1 < b.1 := by
  unfold tilesOf
  refine List.pairwise_flatMap.mpr ⟨fun y _ => ?_, ?_⟩
  · refine List.pairwise_map.mpr (List.pairwise_lt_range.imp fun hx => ?_)
    exact .inr ⟨rfl, hx⟩
  · refine List.pairwise_lt_range.imp fun hy a ha b hb => ?_
    obtain ⟨_, _, rfl⟩ := List.mem_map.mp ha
    obtain ⟨_, _, rfl⟩ := List.mem_map.mp hb
    exact .inl hy

/-- The tiles of a rectangle are those inside it. -/
theorem mem_tilesOf {width height : Nat} {tile : Nat × Nat} :
    tile ∈ tilesOf width height ↔ tile.1 < width ∧ tile.2 < height := by
  obtain ⟨x, y⟩ := tile
  simp [tilesOf, and_comm]

/-- A survey asks in its order. -/
theorem Question.pairwise_aboutTiles (width height : Nat) :
    (aboutTiles (tilesOf width height)).Pairwise Before := by
  refine List.pairwise_flatMap.mpr ⟨fun tile _ => ?_, ?_⟩
  · have hturns : Direction.all.Pairwise fun d e => d.bitIndex < e.bitIndex := by decide
    refine List.pairwise_map.mpr (hturns.imp fun hturn => ?_)
    exact .inr ⟨rfl, .inr ⟨rfl, hturn⟩⟩
  · refine (pairwise_tilesOf width height).imp fun htiles p hp q hq => ?_
    obtain ⟨_, _, rfl⟩ := List.mem_map.mp hp
    obtain ⟨_, _, rfl⟩ := List.mem_map.mp hq
    rcases htiles with hrow | ⟨hrow, hcolumn⟩
    · exact .inl hrow
    · exact .inr ⟨hrow, .inl hcolumn⟩

/-- A survey asks about every tile of its rectangle in every direction, and about nothing else. -/
theorem Question.mem_aboutTiles {width height : Nat} {q : Question} :
    q ∈ aboutTiles (tilesOf width height) ↔ q.x < width ∧ q.y < height := by
  unfold aboutTiles
  rw [List.mem_flatMap]
  constructor
  · rintro ⟨tile, htile, hq⟩
    obtain ⟨_, _, rfl⟩ := List.mem_map.mp hq
    exact mem_tilesOf.mp htile
  · intro hq
    exact ⟨(q.x, q.y), mem_tilesOf.mpr hq, List.mem_map.mpr ⟨q.direction, Direction.mem_all _, rfl⟩⟩

section

variable {σ ε : Type}

/-- Questions are asked one after the other until one of them fails, and `answer` says what the
answers are. The states are those of the one who is asked, before and after. -/
inductive Interview (ask : Int → Int → Direction → StateM σ (Except ε Bool))
    (answer : Question → Bool) : List Question → σ → Except ε Unit → σ → Prop
  | finished (s : σ) : Interview ask answer [] s (.ok ()) s
  | failed {q : Question} {rest : List Question} {s s' : σ} {e : ε}
      (hfails : Yields (ask q.x q.y q.direction) s (.error e) s') :
      Interview ask answer (q :: rest) s (.error e) s'
  | answered {q : Question} {rest : List Question} {s s₁ s' : σ} {outcome : Except ε Unit}
      (hanswer : Yields (ask q.x q.y q.direction) s (.ok (answer q)) s₁)
      (hrest : Interview ask answer rest s₁ outcome s') :
      Interview ask answer (q :: rest) s outcome s'

variable {ask : Int → Int → Direction → StateM σ (Except ε Bool)} {answer answer' : Question → Bool}
  {questions behind : List Question} {s s' : σ} {outcome : Except ε Unit} {e : ε}

namespace Interview

/-- What is said about other questions does not matter. -/
theorem congr (h : Interview ask answer questions s outcome s')
    (hsame : ∀ q ∈ questions, answer q = answer' q) :
    Interview ask answer' questions s outcome s' := by
  induction h with
  | finished s => exact .finished s
  | failed hfails => exact .failed hfails
  | answered hanswer _ ih =>
    obtain ⟨hq, hrest⟩ := List.forall_mem_cons.mp hsame
    exact .answered (hq ▸ hanswer) (ih hrest)

/-- Whatever is asked, there is an interview, if nothing is asked twice. -/
theorem exists_of_nodup (ask : Int → Int → Direction → StateM σ (Except ε Bool))
    (hnodup : questions.Nodup) (s : σ) :
    ∃ answer outcome s', Interview ask answer questions s outcome s' := by
  induction questions generalizing s with
  | nil => exact ⟨fun _ => false, _, _, .finished s⟩
  | cons q rest ih =>
    obtain ⟨hq, hrest⟩ := List.nodup_cons.mp hnodup
    have hasked := yields_run (ask q.x q.y q.direction) s
    cases hresult : ((ask q.x q.y q.direction).run s).run.1 with
    | error e =>
      rw [hresult] at hasked
      exact ⟨fun _ => false, _, _, .failed hasked⟩
    | ok told =>
      rw [hresult] at hasked
      obtain ⟨answer, outcome, s', hinterview⟩ := ih hrest ((ask q.x q.y q.direction).run s).run.2
      -- The question is not among those that follow, so its answer can be added to theirs.
      refine ⟨Function.update answer q told, outcome, s', .answered ?_ (hinterview.congr ?_)⟩
      · rwa [Function.update_self]
      · intro p hp
        have hne : p ≠ q := fun hpq => hq (hpq ▸ hp)
        rw [Function.update_of_ne hne]

/-- An interview about more questions ends with a failure among the first ones, or goes on behind
them. -/
theorem append (h : Interview ask answer (questions ++ behind) s outcome s') :
    (∃ s₁, Interview ask answer questions s (.ok ()) s₁ ∧
      Interview ask answer behind s₁ outcome s') ∨
    ∃ e, outcome = .error e ∧ Interview ask answer questions s (.error e) s' := by
  induction questions generalizing s with
  | nil => exact .inl ⟨s, .finished s, h⟩
  | cons q rest ih =>
    cases h with
    | failed hfails => exact .inr ⟨_, rfl, .failed hfails⟩
    | answered hanswer hrest =>
      rcases ih hrest with ⟨s₁, hfirst, hbehind⟩ | ⟨e, houtcome, hfirst⟩
      · exact .inl ⟨s₁, .answered hanswer hfirst, hbehind⟩
      · exact .inr ⟨e, houtcome, .answered hanswer hfirst⟩

/-- An interview that fails has answers to all questions before the one that failed, and that one
was the last to be asked. -/
theorem first_failure (h : Interview ask answer questions s (.error e) s') :
    ∃ asked q unasked s₁, questions = asked ++ q :: unasked ∧
      Interview ask answer asked s (.ok ()) s₁ ∧
      Yields (ask q.x q.y q.direction) s₁ (.error e) s' := by
  induction questions generalizing s with
  | nil => cases h
  | cons q rest ih =>
    cases h with
    | failed hfails => exact ⟨[], q, rest, s, rfl, .finished s, hfails⟩
    | answered hanswer hrest =>
      obtain ⟨asked, p, unasked, s₁, hquestions, hasked, hfails⟩ := ih hrest
      exact ⟨q :: asked, p, unasked, s₁, by rw [hquestions, List.cons_append],
        .answered hanswer hasked, hfails⟩

/-- The mask of a tile comes of an interview about it. -/
theorem maskFrom {x y : Nat} {directions : List Direction} (mask : Nat)
    (h : Interview ask answer (directions.map (Question.mk x y)) s outcome s') :
    Yields (maskFrom (ask x y) mask directions) s
      (outcome.map fun _ =>
        mask + ((directions.filter fun d => !answer ⟨x, y, d⟩).map Direction.bit).sum) s' := by
  induction directions generalizing mask s with
  | nil =>
    cases h
    exact yields_pure.mpr ⟨rfl, rfl⟩
  | cons d rest ih =>
    cases h with
    | failed hfails => exact yields_bind.mpr ⟨_, _, hfails, yields_pure.mpr ⟨rfl, rfl⟩⟩
    | answered hanswer hrest =>
      refine yields_bind.mpr ⟨_, _, hanswer, ?_⟩
      cases hopen : answer ⟨x, y, d⟩ with
      | true => simpa [hopen] using ih mask hrest
      | false => simpa [hopen, Nat.add_assoc] using ih (mask + d.bit) hrest

/-- The cells of some tiles come of an interview about them. -/
theorem cellsFrom {tiles : List (Nat × Nat)} (cells : Array Nat)
    (h : Interview ask answer (Question.aboutTiles tiles) s outcome s') :
    Yields (cellsFrom ask cells tiles) s
      (outcome.map fun _ => cells ++ (tiles.map fun tile => CollisionGrid.cellOfMask
        (Direction.maskOf fun d => !answer ⟨tile.1, tile.2, d⟩)).toArray) s' := by
  induction tiles generalizing cells s with
  | nil =>
    cases h
    exact yields_pure.mpr ⟨by simp [Except.map], rfl⟩
  | cons tile rest ih =>
    have hparts : Interview ask answer (Question.aboutTile tile ++ Question.aboutTiles rest) s
        outcome s' := h
    rcases hparts.append with ⟨s₁, hfirst, hbehind⟩ | ⟨e, rfl, hfirst⟩
    · refine yields_bind.mpr ⟨_, s₁, hfirst.maskFrom 0, ?_⟩
      have hcells := ih (cells.push (CollisionGrid.cellOfMask
        (Direction.maskOf fun d => !answer ⟨tile.1, tile.2, d⟩))) hbehind
      simpa [Except.map, Direction.maskOf] using hcells
    · exact yields_bind.mpr ⟨_, _, hfirst.maskFrom 0, yields_pure.mpr ⟨rfl, rfl⟩⟩

/-- The grid of a map comes of an interview about its tiles, and the player is put back. -/
theorem surveyGrid {map : FieldMap} {player : Player} {query : MovementQuery (StateM σ) ε}
    (h : Interview (query map (player.moveTo (-1) (-1))) answer
      (Question.aboutTiles (tilesOf map.width map.height)) s outcome s') :
    Yields (surveyGrid query map player) s
      (outcome.map fun _ => CollisionGrid.ofMasks map.width map.height fun x y =>
        Direction.maskOf fun d => !answer ⟨x.toNat, y.toNat, d⟩, player) s' := by
  refine yields_bind.mpr ⟨_, s', h.cellsFrom #[], yields_pure.mpr ⟨?_, rfl⟩⟩
  cases outcome with
  | error e => rfl
  | ok _ => simp [Except.map, CollisionGrid.ofMasks, Player.moveTo]

end Interview

/-- A grid says of every tile of a map what was answered about it: the mask of a tile has the bit of
a direction exactly if the answer to that question was no. A cell is 0 where the mask is empty and
384 more than the mask elsewhere, and there are no other cells. -/
structure CollisionGrid.Records (grid : CollisionGrid) (map : FieldMap) (answer : Question → Bool) :
    Prop where
  width : grid.width = map.width
  height : grid.height = map.height
  size : grid.cells.size = map.width * map.height
  cells : ∀ cell ∈ grid.cells, cell = 0 ∨ ∃ mask, 0 < mask ∧ mask < 16 ∧ cell = 384 + mask
  get : ∀ q : Question, map.valid q.x q.y = true → ∃ mask < 16, grid.mask? q.x q.y = some mask ∧
    grid.get? q.x q.y = some (if mask = 0 then 0 else 384 + mask) ∧
    (mask.testBit q.direction.bitIndex = true ↔ answer q = false)
  off : ∀ x y : Int, (grid.get? x y = none ↔ map.valid x y = false) ∧
    (grid.mask? x y = none ↔ map.valid x y = false)

/-- A cell is 0, or 384 more than a mask that is not empty. -/
theorem CollisionGrid.cellOfMask_cases {mask : Nat} (hmask : mask < 16) :
    cellOfMask mask = 0 ∨ ∃ mask', 0 < mask' ∧ mask' < 16 ∧ cellOfMask mask = 384 + mask' := by
  unfold cellOfMask
  by_cases hempty : mask = 0
  · exact .inl (if_pos hempty)
  · exact .inr ⟨mask, Nat.pos_of_ne_zero hempty, hmask, if_neg hempty⟩

/-- A grid has cells on its map and nowhere else. -/
theorem CollisionGrid.get?_ofMasks_eq_none (map : FieldMap) (masks : Int → Int → Nat) (x y : Int) :
    (ofMasks map.width map.height masks).get? x y = none ↔ map.valid x y = false := by
  cases hvalid : map.valid x y with
  | true => simp [get?_ofMasks (FieldMap.valid_iff.mp hvalid)]
  | false =>
    have hoff : ¬ (0 ≤ x ∧ 0 ≤ y ∧ x < map.width ∧ y < map.height) := by
      intro hon
      have hvalid' := FieldMap.valid_iff.mpr ⟨hon.1, hon.2.2.1, hon.2.1, hon.2.2.2⟩
      rw [hvalid] at hvalid'
      contradiction
    simp [get?, ofMasks, hoff]

/-- The grid of the directions about which the answer was no records the answers. -/
theorem CollisionGrid.records_ofMasks (map : FieldMap) (answer : Question → Bool) :
    (ofMasks map.width map.height fun x y =>
      Direction.maskOf fun d => !answer ⟨x.toNat, y.toNat, d⟩).Records map answer where
  width := rfl
  height := rfl
  size := by
    simp only [ofMasks, List.size_toArray, List.length_map, length_tilesOf]
    exact Nat.mul_comm ..
  cells := by
    intro cell hcell
    simp only [ofMasks, List.mem_toArray, List.mem_map] at hcell
    obtain ⟨tile, _, rfl⟩ := hcell
    exact cellOfMask_cases (Direction.maskOf_lt _)
  get := by
    intro q hq
    have hon := FieldMap.valid_iff.mp hq
    refine ⟨_, Direction.maskOf_lt _, mask?_ofMasks (Direction.maskOf_lt _) hon,
      get?_ofMasks hon, ?_⟩
    rw [Direction.testBit_maskOf, Bool.not_eq_true', Int.toNat_natCast, Int.toNat_natCast]
  off := by
    intro x y
    refine ⟨get?_ofMasks_eq_none .., ?_⟩
    rw [mask?, Option.map_eq_none_iff]
    exact get?_ofMasks_eq_none ..

/-- **A survey is exact and leaves the player alone.** It asks about every tile of the map and every
direction once, row by row, and about one tile down, left, right and up, each time with the player
beside the map and otherwise as it is. If a question fails, that failure is the result and nothing
is asked any more; otherwise the result is the grid that records the answers. The player is the same
afterwards in both cases. Under the player's own rules the survey has one result, a grid, wherever
the player stands. -/
theorem surveyGrid_exact (query : MovementQuery (StateM σ) ε) (map : FieldMap) (player : Player)
    (s : σ) :
    let ask := query map { player with x := -1, y := -1 }
    (∃ questions : List Question, questions.Pairwise Question.Before ∧
      (∀ q, q ∈ questions ↔ map.valid q.x q.y = true) ∧
      ∃ answer : Question → Bool,
        (∃ asked q unasked e s₁ s', questions = asked ++ q :: unasked ∧
          Interview ask answer asked s (.ok ()) s₁ ∧
          Yields (ask q.x q.y q.direction) s₁ (.error e) s' ∧
          Yields (surveyGrid query map player) s (.error e, player) s') ∨
        ∃ grid s', Interview ask answer questions s (.ok ()) s' ∧
          Yields (surveyGrid query map player) s (.ok grid, player) s' ∧
          grid.Records map answer) ∧
    ∃ grid, ∀ x y : Int,
      playerGrid map (player.moveTo x y) = (.ok grid, player.moveTo x y) := by
  intro ask
  refine ⟨⟨_, Question.pairwise_aboutTiles map.width map.height, fun q => ?_, ?_⟩, ?_⟩
  · rw [Question.mem_aboutTiles, FieldMap.valid_iff]
    omega
  · have hnodup : (Question.aboutTiles (tilesOf map.width map.height)).Nodup :=
      (Question.pairwise_aboutTiles map.width map.height).imp Question.Before.ne
    obtain ⟨answer, outcome, s', hinterview⟩ := Interview.exists_of_nodup ask hnodup s
    refine ⟨answer, ?_⟩
    have hsurvey : Yields (surveyGrid query map player) s _ s' := hinterview.surveyGrid
    cases outcome with
    | error e =>
      obtain ⟨asked, q, unasked, s₁, hquestions, hasked, hfails⟩ := hinterview.first_failure
      exact .inl ⟨asked, q, unasked, e, s₁, s', hquestions, hasked, hfails, hsurvey⟩
    | ok _ => exact .inr ⟨_, s', hinterview, hsurvey, CollisionGrid.records_ofMasks map answer⟩
  · refine ⟨.ofMasks map.width map.height fun x y =>
      Direction.maskOf fun d => !(player.moveTo (-1) (-1)).passable map x y d, fun x y => ?_⟩
    exact playerGrid_eq map (player.moveTo x y)

end

end Overworld
