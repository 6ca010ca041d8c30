import Overworld.Collision.Toggle
import Overworld.Proofs.Collision.Survey

/-!
# What an overlay owns

The overlay acquires a viewport, then a tilemap in it, then the grid that is bound to the tilemap,
and a refused tilemap stops it half way. At every moment what is alive on the canvas is what the
overlay has on its books, so releasing it leaves nothing behind. Between calls the books are
complete or empty: an overlay that is shown owns one viewport with one tilemap that shows its grid,
and one that is hidden owns nothing.
-/

namespace Overworld

namespace Canvas

/-- A canvas with one viewport, and one tilemap in it that shows a grid. -/
structure Shows (c : Canvas) (viewport tilemap : UInt32) (grid : CollisionGrid) : Prop where
  viewports_eq : c.viewports = [viewport]
  tilemaps_eq : ∃ surface, c.tilemaps = [(tilemap, surface)] ∧ surface.viewport = viewport ∧
    surface.blockedTiles = some grid.blockedTiles

/-- A canvas on which nothing is alive. -/
structure IsBare (c : Canvas) : Prop where
  viewports_eq : c.viewports = []
  tilemaps_eq : c.tilemaps = []

variable {c c' : Canvas} {viewport tilemap : UInt32} {grid : CollisionGrid}

/-- Nothing is alive on a bare canvas. -/
theorem IsBare.live_eq (h : c.IsBare) : c.live = 0 := by
  rw [live, h.viewports_eq, h.tilemaps_eq]
  rfl

/-- Scrolling a tilemap changes nothing of what is shown. -/
theorem Shows.setOrigin (h : c.Shows viewport tilemap grid) (x y : Int) :
    (c.setOrigin tilemap x y).Shows viewport tilemap grid := by
  obtain ⟨surface, hsurface, hviewport, hblocked⟩ := h.tilemaps_eq
  refine ⟨h.viewports_eq, { surface with origin := (x, y) }, ?_, hviewport, hblocked⟩
  simp [Canvas.setOrigin, modify, hsurface]

end Canvas

namespace Overlay

/-- What is alive on the canvas is what the overlay has on its books. -/
def Accounts (o : Overlay) : Prop :=
  match o.resources with
  | none => o.canvas.IsBare
  | some resources =>
    o.canvas.viewports = [resources.viewport] ∧
      o.canvas.tilemaps.map Prod.fst = resources.tilemap.toList

/-- The overlay owns nothing and has no grid. -/
structure OwnsNothing (o : Overlay) : Prop where
  resources_eq : o.resources = none
  grid_eq : o.grid = none
  bare : o.canvas.IsBare

/-- The overlay owns what it needs to show a grid. -/
structure Owns (o : Overlay) (grid : CollisionGrid) : Prop where
  grid_eq : o.grid = some grid
  shows : ∃ viewport tilemap, o.resources = some { viewport, tilemap := some tilemap } ∧
    o.canvas.Shows viewport tilemap grid

/-- An overlay between two calls: shown with all it needs, or hidden with nothing. -/
inductive Tidy (o : Overlay) : Prop
  | shown {grid : CollisionGrid} (henabled : o.enabled = true) (howns : o.Owns grid)
  | hidden (henabled : o.enabled = false) (hnothing : o.OwnsNothing)

section

variable {o o' : Overlay} {grid : CollisionGrid} {map : FieldMap} {player player' : Player}

/-- An overlay that owns nothing has empty books. -/
theorem OwnsNothing.accounts (h : o.OwnsNothing) : o.Accounts := by
  unfold Accounts
  rw [h.resources_eq]
  exact h.bare

/-- An overlay that owns what it shows has it on its books. -/
theorem Owns.accounts (h : o.Owns grid) : o.Accounts := by
  obtain ⟨viewport, tilemap, hresources, hviewports, surface, htilemaps, -⟩ := h.shows
  unfold Accounts
  rw [hresources]
  exact ⟨hviewports, by simp [htilemaps]⟩

/-- Between two calls the books are in order. -/
theorem Tidy.accounts (h : o.Tidy) : o.Accounts := by
  cases h with
  | shown _ howns => exact howns.accounts
  | hidden _ hnothing => exact hnothing.accounts

/-- Releasing what is on the books leaves nothing behind. -/
theorem Accounts.dispose (h : o.Accounts) : o.dispose.OwnsNothing := by
  cases hresources : o.resources with
  | none =>
    simp only [Accounts, hresources] at h
    simp only [Overlay.dispose, hresources]
    exact ⟨rfl, rfl, h⟩
  | some resources =>
    simp only [Accounts, hresources] at h
    obtain ⟨hviewports, htilemaps⟩ := h
    simp only [Overlay.dispose, hresources]
    refine ⟨rfl, rfl, ?_⟩
    cases htilemap : resources.tilemap with
    | none =>
      have hempty : o.canvas.tilemaps = [] := by simpa [htilemap] using htilemaps
      exact ⟨by simp [Canvas.disposeViewport, hviewports], hempty⟩
    | some tilemap =>
      have hall : ∀ t ∈ o.canvas.tilemaps, t.1 = tilemap := by
        intro t ht
        have hmem : t.1 ∈ o.canvas.tilemaps.map Prod.fst := List.mem_map_of_mem ht
        simpa [htilemaps, htilemap] using hmem
      refine ⟨by simp [Canvas.disposeViewport, Canvas.disposeTilemap, hviewports], ?_⟩
      simpa [Canvas.disposeViewport, Canvas.disposeTilemap, List.filter_eq_nil_iff] using hall

/-- Hiding an overlay whose books are in order leaves nothing behind. -/
theorem Accounts.hide (h : o.Accounts) : o.hide.OwnsNothing :=
  ⟨h.dispose.resources_eq, h.dispose.grid_eq, h.dispose.bare⟩

/-- A hidden overlay is tidy. -/
theorem Tidy.hide (h : o.Tidy) : o.hide.Tidy := .hidden rfl h.accounts.hide

/-- An overlay that moves along with the map keeps what it owns. -/
theorem Owns.follow (h : o.Owns grid) (map : FieldMap) : (o.follow map).Owns grid := by
  obtain ⟨viewport, tilemap, hresources, hshows⟩ := h.shows
  unfold Overlay.follow
  split
  · rename_i other _ hother
    obtain rfl : tilemap = other := by simpa [hresources] using hother
    exact ⟨h.grid_eq, viewport, tilemap, hresources, hshows.setOrigin ..⟩
  · exact h

/-- Moving along with the map does not show or hide anything. -/
theorem follow_enabled (o : Overlay) (map : FieldMap) : (o.follow map).enabled = o.enabled := by
  unfold Overlay.follow
  split <;> rfl

/-- An overlay that moves along with the map stays tidy. -/
theorem Tidy.follow (h : o.Tidy) (map : FieldMap) : (o.follow map).Tidy := by
  cases h with
  | shown henabled howns =>
    exact .shown ((o.follow_enabled map).trans henabled) (howns.follow map)
  | hidden henabled hnothing =>
    have hsame : o.follow map = o := by simp [Overlay.follow, henabled]
    rw [hsame]
    exact .hidden henabled hnothing

/-- Drawing a grid on a bare canvas succeeds unless tilemaps are refused. If it fails the books are
in order, and if it succeeds they are complete. -/
theorem OwnsNothing.draw (h : o.OwnsNothing) (map : FieldMap) (player : Player) :
    (∃ fault o', o.draw map player = (.error fault, o', player) ∧ o'.Accounts ∧
      o.canvas.refusesTilemaps = true) ∨
    ∃ grid o', o.draw map player = (.ok grid, o', player) ∧ o'.Owns grid ∧
      o.canvas.refusesTilemaps = false := by
  obtain ⟨hviewports, htilemaps⟩ := h.bare
  simp only [Overlay.draw, Canvas.createViewport, Canvas.createTilemap, hviewports]
  cases hrefuses : o.canvas.refusesTilemaps with
  | true =>
    refine .inl ⟨_, _, rfl, ?_, rfl⟩
    exact ⟨rfl, by simp [htilemaps]⟩
  | false =>
    right
    simp only [Bool.false_eq_true, if_false, List.mem_singleton, if_true, playerGrid_eq,
      Canvas.bindGrid, htilemaps, List.any_cons, decide_true, Bool.true_or, Canvas.modify,
      List.map_cons, List.map_nil]
    refine ⟨_, _, rfl, ?_, trivial⟩
    refine Owns.follow ⟨rfl, _, _, rfl, rfl, _, rfl, rfl, rfl⟩ map

/-- What an attempt to show a grid leads to: a failure that leaves nothing alive, which happens
exactly if tilemaps are refused, or an overlay that owns what it shows. -/
theorem Accounts.present (h : o.Accounts) (map : FieldMap) (player : Player) :
    (∃ fault, (o.present map player).1 = .error fault ∧
      (o.present map player).2.1.enabled = false ∧ (o.present map player).2.1.OwnsNothing ∧
      o.canvas.refusesTilemaps = true) ∨
    ∃ grid, (o.present map player).1 = .ok grid ∧
      (o.present map player).2.1.enabled = true ∧ (o.present map player).2.1.Owns grid ∧
      o.canvas.refusesTilemaps = false := by
  have hrefuses : o.dispose.canvas.refusesTilemaps = o.canvas.refusesTilemaps := by
    unfold Overlay.dispose
    split
    · rfl
    · rename_i resources _
      cases resources.tilemap <;> rfl
  unfold Overlay.present
  rcases h.dispose.draw map player with ⟨fault, drawn, hdraw, haccounts, hfails⟩ |
    ⟨grid, drawn, hdraw, howns, hworks⟩
  · simp only [hdraw]
    exact .inl ⟨fault, rfl, rfl, haccounts.hide, hrefuses ▸ hfails⟩
  · obtain ⟨viewport, tilemap, hresources, hviewports, hsurface⟩ := howns.shows
    rw [hdraw]
    refine .inr ⟨grid, rfl, rfl, ⟨howns.grid_eq, viewport, tilemap, hresources, ?_⟩,
      hrefuses ▸ hworks⟩
    exact ⟨hviewports, hsurface⟩

/-- An attempt to show a grid leaves the overlay tidy. -/
theorem Tidy.present (h : o.Tidy) (map : FieldMap) (player : Player) :
    (o.present map player).2.1.Tidy := by
  rcases h.accounts.present map player with ⟨fault, -, henabled, hnothing, -⟩ |
    ⟨grid, -, henabled, howns, -⟩
  · exact .hidden henabled hnothing
  · exact .shown henabled howns

/-- What is shown does not depend on the generation that goes with it. -/
theorem Tidy.withGeneration (h : o.Tidy) (generation : UInt64) :
    { o with generation }.Tidy := by
  cases h with
  | shown henabled howns => exact .shown henabled ⟨howns.grid_eq, howns.shows⟩
  | hidden henabled hnothing =>
    exact .hidden henabled ⟨hnothing.resources_eq, hnothing.grid_eq, hnothing.bare⟩

/-- Showing the grid of the live map leaves the overlay tidy. -/
theorem Tidy.presentCurrent (h : o.Tidy) (c : FieldContext) : (o.presentCurrent c).plugin.Tidy := by
  have hpresent := h.present c.snapshot.map c.player
  unfold Overlay.presentCurrent
  split
  · rename_i fault shown player hshown
    rwa [hshown] at hpresent
  · rename_i grid shown player hshown
    rw [hshown] at hpresent
    exact hpresent.withGeneration _

/-- The frame hook leaves the overlay tidy. -/
theorem Tidy.onUpdate (h : o.Tidy) (input : Input) (c : FieldContext) :
    (o.onUpdate input c).plugin.Tidy := by
  have hreact : (o.react input c).plugin.Tidy := by
    unfold Overlay.react Overlay.toggle
    split
    · split
      · exact h.hide
      · exact h.presentCurrent c
    · split
      · exact h.presentCurrent c
      · exact h
  unfold Overlay.onUpdate
  split
  · simp only
    split
    · exact hreact
    · exact hreact.follow _
  · exact h

/-- The transfer hook leaves the overlay tidy. -/
theorem Tidy.onTransfer (h : o.Tidy) (c : FieldContext) : (o.onTransfer c).plugin.Tidy :=
  h.hide

/-- Refusing tilemaps from now on, or no longer, has nothing to do with what is owned. -/
theorem Tidy.refusing (h : o.Tidy) (refuses : Bool) :
    { o with canvas := { o.canvas with refusesTilemaps := refuses } }.Tidy := by
  cases h with
  | shown henabled howns =>
    obtain ⟨viewport, tilemap, hresources, hviewports, hsurface⟩ := howns.shows
    exact .shown henabled
      ⟨howns.grid_eq, viewport, tilemap, hresources, ⟨hviewports, hsurface⟩⟩
  | hidden henabled hnothing =>
    exact .hidden henabled ⟨hnothing.resources_eq, hnothing.grid_eq,
      ⟨hnothing.bare.viewports_eq, hnothing.bare.tilemaps_eq⟩⟩

end

/-- The overlays that calls of any kind, in any order, can make of a new one. Nothing else uses
their canvas. -/
inductive Reachable : Overlay → Prop
  | new (config : OverlayConfig) (screen : Screen) : Reachable { config, screen }
  | presented {o : Overlay} (ho : Reachable o) (map : FieldMap) (player : Player) :
      Reachable (o.present map player).2.1
  | hidden {o : Overlay} (ho : Reachable o) : Reachable o.hide
  | followed {o : Overlay} (ho : Reachable o) (map : FieldMap) : Reachable (o.follow map)
  | updated {o : Overlay} (ho : Reachable o) (input : Input) (c : FieldContext) :
      Reachable (o.onUpdate input c).plugin
  | transferred {o : Overlay} (ho : Reachable o) (c : FieldContext) :
      Reachable (o.onTransfer c).plugin
  | refusing {o : Overlay} (ho : Reachable o) (refuses : Bool) :
      Reachable { o with canvas := { o.canvas with refusesTilemaps := refuses } }

/-- Between calls every overlay is tidy. -/
theorem Reachable.tidy {o : Overlay} (h : Reachable o) : o.Tidy := by
  induction h with
  | new config screen => exact .hidden rfl ⟨rfl, rfl, ⟨rfl, rfl⟩⟩
  | presented _ map player ih => exact ih.present map player
  | hidden _ ih => exact ih.hide
  | followed _ map ih => exact ih.follow map
  | updated _ input c ih => exact ih.onUpdate input c
  | transferred _ c ih => exact ih.onTransfer c
  | refusing _ refuses ih => exact ih.refusing refuses

/-- **The overlay owns exactly what it shows.** Whatever has been done to it, an overlay is shown
exactly if it has a grid, and exactly if one viewport and one tilemap are alive that belong
together and show as many blocked tiles as the grid has; a hidden one has nothing alive. If
tilemaps are refused, an attempt to show a grid fails and leaves nothing alive, whatever was shown
before; otherwise it succeeds. -/
theorem reachable_owns_what_it_shows {o : Overlay} (h : Reachable o) :
    (o.enabled = true ↔ ∃ grid, o.grid = some grid) ∧
    (o.enabled = true ↔ ∃ grid viewport tilemap surface, o.grid = some grid ∧
      o.canvas.viewports = [viewport] ∧ o.canvas.tilemaps = [(tilemap, surface)] ∧
      surface.viewport = viewport ∧ surface.blockedTiles = some grid.blockedTiles) ∧
    (o.enabled = false → o.canvas.viewports = [] ∧ o.canvas.tilemaps = []) ∧
    ∀ (map : FieldMap) (player : Player),
      let (result, shown, _) := o.present map player
      (o.canvas.refusesTilemaps = true → (∃ fault, result = .error fault) ∧
        shown.enabled = false ∧ shown.canvas.live = 0) ∧
      (o.canvas.refusesTilemaps = false → ∃ grid, result = .ok grid ∧ shown.grid = some grid) := by
  have htidy := h.tidy
  have hpresent : ∀ (map : FieldMap) (player : Player),
      (o.canvas.refusesTilemaps = true → (∃ fault, (o.present map player).1 = .error fault) ∧
        (o.present map player).2.1.enabled = false ∧
        (o.present map player).2.1.canvas.live = 0) ∧
      (o.canvas.refusesTilemaps = false → ∃ grid, (o.present map player).1 = .ok grid ∧
        (o.present map player).2.1.grid = some grid) := by
    intro map player
    rcases htidy.accounts.present map player with ⟨fault, hresult, hoff, hnothing, hrefuses⟩ |
      ⟨grid, hresult, -, howns, hrefuses⟩
    · rw [hrefuses]
      exact ⟨fun _ => ⟨⟨fault, hresult⟩, hoff, hnothing.bare.live_eq⟩, nofun⟩
    · rw [hrefuses]
      exact ⟨nofun, fun _ => ⟨grid, hresult, howns.grid_eq⟩⟩
  cases htidy with
  | @shown grid henabled howns =>
    obtain ⟨viewport, tilemap, -, hviewports, surface, htilemaps, hbelongs, hblocked⟩ := howns.shows
    refine ⟨⟨fun _ => ⟨grid, howns.grid_eq⟩, fun _ => henabled⟩, ⟨fun _ => ?_, fun _ => henabled⟩,
      fun hoff => absurd (henabled.symm.trans hoff) nofun, hpresent⟩
    exact ⟨grid, viewport, tilemap, surface, howns.grid_eq, hviewports, htilemaps, hbelongs,
      hblocked⟩
  | hidden henabled hnothing =>
    have hno : ∀ grid, o.grid ≠ some grid := fun grid hgrid => by
      rw [hnothing.grid_eq] at hgrid
      cases hgrid
    refine ⟨⟨fun hon => absurd (henabled.symm.trans hon) nofun, ?_⟩,
      ⟨fun hon => absurd (henabled.symm.trans hon) nofun, ?_⟩,
      fun _ => ⟨hnothing.bare.viewports_eq, hnothing.bare.tilemaps_eq⟩, hpresent⟩
    · rintro ⟨grid, hgrid⟩
      exact absurd hgrid (hno grid)
    · rintro ⟨grid, -, -, -, hgrid, -⟩
      exact absurd hgrid (hno grid)

/-- A map of two tiles. -/
private def ledge : FieldMap := { ground := .ofList 2 1 [] }

/-- An overlay that has shown the grid of the map after it could not at first. -/
private def relit : Overlay :=
  let unlit : Overlay := { config := {}, screen := {}, canvas := { refusesTilemaps := true } }
  let refused := (unlit.present ledge {}).2.1
  ({ refused with canvas := { refused.canvas with refusesTilemaps := false } }.present ledge {}).2.1

/-- The overlay owns the second viewport and the one tilemap that it has been given. If it is shown
again while tilemaps are refused, nothing is left. -/
theorem relit_owns_what_it_shows :
    Reachable relit ∧ relit.canvas.viewports = [2] ∧ relit.canvas.allocations = 3 ∧
    relit.enabled = true ∧
    (∃ grid viewport tilemap surface, relit.grid = some grid ∧
      relit.canvas.viewports = [viewport] ∧ relit.canvas.tilemaps = [(tilemap, surface)] ∧
      surface.viewport = viewport ∧ surface.blockedTiles = some grid.blockedTiles) ∧
    let refusing := { relit with canvas := { relit.canvas with refusesTilemaps := true } }
    Reachable refusing ∧ refusing.canvas.refusesTilemaps = true ∧
      (refusing.present ledge {}).2.1.canvas.live = 0 := by
  have hrelit : Reachable relit :=
    .presented (.refusing (.presented (.refusing (.new {} {}) true) ledge {}) false) ledge {}
  have henabled : relit.enabled = true := by decide
  refine ⟨hrelit, by decide, by decide, henabled,
    (reachable_owns_what_it_shows hrelit).2.1.mp henabled, .refusing hrelit true, rfl, ?_⟩
  exact (((reachable_owns_what_it_shows (.refusing hrelit true)).2.2.2 ledge {}).1 rfl).2.2

end Overlay

end Overworld
