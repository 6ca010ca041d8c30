import Overworld.Collision.Toggle
import Overworld.Proofs.Collision.Survey

/-!
# What the overlay does in a frame

A grid can be drawn unless tilemaps are refused. So the frame hook of the overlay ends in one of
five ways, each with the state and the notice that it leaves.
-/

namespace Overworld

namespace Overlay

/-- Moving along with the map changes neither what is shown nor what goes with it. -/
theorem follow_shown (o : Overlay) (map : FieldMap) :
    (o.follow map).enabled = o.enabled ∧ (o.follow map).grid = o.grid ∧
      (o.follow map).generation = o.generation := by
  unfold follow
  split <;> exact ⟨rfl, rfl, rfl⟩

/-- Releasing resources does not change whether tilemaps are refused. -/
theorem dispose_refusesTilemaps (o : Overlay) :
    o.dispose.canvas.refusesTilemaps = o.canvas.refusesTilemaps := by
  unfold dispose
  split
  · rfl
  · rename_i resources _
    cases resources.tilemap <;> rfl

/-- While tilemaps are refused nothing is drawn. -/
theorem draw_refused {o : Overlay} (h : o.canvas.refusesTilemaps = true) (map : FieldMap)
    (player : Player) :
    ∃ undrawn, o.draw map player = (.error .tilemapRefused, undrawn, player) := by
  simp only [draw, Canvas.createViewport, Canvas.createTilemap, h, if_true]
  exact ⟨_, rfl⟩

/-- Otherwise the grid of the map is drawn. -/
theorem draw_granted {o : Overlay} (h : o.canvas.refusesTilemaps = false) (map : FieldMap)
    (player : Player) :
    ∃ grid drawn, o.draw map player = (.ok grid, drawn, player) ∧
      (playerGrid map player).1 = .ok grid ∧ drawn.grid = some grid := by
  simp only [draw, Canvas.createViewport, Canvas.createTilemap, h, Bool.false_eq_true, if_false,
    List.mem_cons_self, if_true, playerGrid_eq, Canvas.bindGrid, List.any_cons, decide_true,
    Bool.true_or]
  exact ⟨_, _, rfl, rfl, (follow_shown ..).2.1⟩

/-- A frame draws a grid: the hidden overlay is switched on, or the shown one goes with an earlier
generation of the data. -/
def Draws (o : Overlay) (input : Input) (c : FieldContext) : Prop :=
  if input.trigger .debugOverlay then o.enabled = false
  else o.enabled = true ∧ o.generation ≠ c.generation

/-- The ways out of the frame hook. -/
inductive HookExits (o : Overlay) (input : Input) (c : FieldContext) : Hooked Overlay → Prop
  | asleep (hasleep : (c.debug && c.scene.isMap) = false) :
      HookExits o input c { plugin := o, context := c }
  | kept (htrigger : input.trigger .debugOverlay = false)
      (hfresh : o.enabled = true → o.generation = c.generation) :
      HookExits o input c { plugin := o.follow c.snapshot.map, context := c }
  | hid (htrigger : input.trigger .debugOverlay = true) (henabled : o.enabled = true) :
      HookExits o input c
        { plugin := o.hide.follow c.snapshot.map, context := c.notify .overlayHidden }
  | refused {hidden : Overlay} (hdraws : o.Draws input c)
      (hrefuses : o.canvas.refusesTilemaps = true) (hhidden : hidden.enabled = false) :
      HookExits o input c { result := .error .tilemapRefused, plugin := hidden, context := c }
  | showed {grid : CollisionGrid} {shown : Overlay} (hdraws : o.Draws input c)
      (hgranted : o.canvas.refusesTilemaps = false) (hdebug : c.debug = true)
      (hgrid : (playerGrid c.snapshot.map c.player).1 = .ok grid)
      (henabled : shown.enabled = true) (hshown : shown.grid = some grid)
      (hgeneration : shown.generation = c.generation) :
      HookExits o input c
        { plugin := shown, context := c.notify (.overlayShown c.mapId grid.blockedTiles) }

variable {o : Overlay} {input : Input} {c : FieldContext}

/-- A frame that draws a grid shows it, unless tilemaps are refused. -/
theorem presentCurrent_exits (hdraws : o.Draws input c) (hdebug : c.debug = true) :
    o.HookExits input c
      (match (o.presentCurrent c).result with
        | .error _ => o.presentCurrent c
        | .ok () =>
          { o.presentCurrent c with
            plugin := (o.presentCurrent c).plugin.follow
              (o.presentCurrent c).context.snapshot.map }) := by
  unfold presentCurrent present
  cases hrefuses : o.canvas.refusesTilemaps with
  | true =>
    obtain ⟨undrawn, hdraw⟩ := draw_refused ((dispose_refusesTilemaps o).trans hrefuses)
      c.snapshot.map c.player
    simp only [hdraw]
    exact .refused hdraws hrefuses rfl
  | false =>
    obtain ⟨grid, drawn, hdraw, hgrid, hdrawn⟩ :=
      draw_granted ((dispose_refusesTilemaps o).trans hrefuses) c.snapshot.map c.player
    simp only [hdraw]
    obtain ⟨henabled, hsame, hgeneration⟩ := follow_shown
      { drawn with
        enabled := true, canvas := drawn.canvas.resetFrames, generation := c.generation }
      c.snapshot.map
    exact .showed hdraws hrefuses hdebug hgrid henabled (hsame.trans hdrawn) hgeneration

/-- **The frame hook takes one of the five ways out.** -/
theorem onUpdate_exits (o : Overlay) (input : Input) (c : FieldContext) :
    o.HookExits input c (o.onUpdate input c) := by
  unfold onUpdate
  cases hawake : c.debug && c.scene.isMap with
  | false =>
    simp only [Bool.false_eq_true, if_false]
    exact .asleep hawake
  | true =>
    have hdebug : c.debug = true := (Bool.and_eq_true_iff.mp hawake).1
    simp only [if_true]
    by_cases hdraws : o.Draws input c
    · have hreact : o.react input c = o.presentCurrent c := by
        cases htrigger : input.trigger .debugOverlay with
        | true =>
          have hhidden : o.enabled = false := by simpa [Draws, htrigger] using hdraws
          simp [react, toggle, htrigger, hhidden]
        | false =>
          obtain ⟨henabled, hstale⟩ : o.enabled = true ∧ o.generation ≠ c.generation := by
            simpa [Draws, htrigger] using hdraws
          simp [react, htrigger, henabled, hstale]
      rw [hreact]
      exact presentCurrent_exits hdraws hdebug
    · cases htrigger : input.trigger .debugOverlay with
      | true =>
        have henabled : o.enabled = true := by simpa [Draws, htrigger] using hdraws
        simp only [react, toggle, htrigger, henabled, if_true]
        exact .hid htrigger henabled
      | false =>
        have hfresh : o.enabled = true → o.generation = c.generation := by
          simpa [Draws, htrigger] using hdraws
        have hidle : (o.enabled && o.generation != c.generation) = false := by
          simpa using hfresh
        simp only [react, htrigger, hidle, Bool.false_eq_true, if_false]
        exact .kept htrigger hfresh

end Overlay

end Overworld
