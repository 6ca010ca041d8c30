import Overworld.Proofs.Session.OverlayNotices

/-!
# What the overlay shows and tells

In the course of a session the overlay shows the grid of the live map or nothing, and the host has
been told which of the two, but for a reload that hides the overlay because tilemaps are refused.
Both show at a pond that is saved while its grid is on screen.
-/

namespace Overworld

namespace Session

section

variable {s : Session Empty} {forms : List FieldMap} {taken : NoticeBoard}
  {P : Session Empty → Input → Session Empty → Prop} {σ : Type} [DataSource (StateM σ)]
  [BitmapLoader (StateM σ)]

/-- **The overlay never shows the grid of a map that has been replaced.** Between the calls of the
host, whatever they are and however they end, an overlay that is shown goes with the present
generation of the data, and its grid was computed from a form that the live map has had since the
last reload and the last transfer. So it is as large as the live map. -/
theorem shown_grid_current (h : Course σ P s taken forms) :
    ∃ w o, s.plugins = [.reload w, .overlay o] ∧
      (o.enabled = true → o.generation = s.context.generation ∧
        ∃ grid, o.grid = some grid ∧ grid.DrawnFrom forms ∧
          grid.width = s.context.snapshot.map.width ∧
          grid.height = s.context.snapshot.map.height) := by
  obtain ⟨w, o, hdate⟩ := h.upToDate
  refine ⟨w, o, hdate.plugins_eq, fun henabled => ?_⟩
  obtain ⟨-, hgeneration, grid, hgrid, map, hmap, player, hdrawn⟩ := hdate.current henabled
  obtain ⟨hwidth, hheight⟩ := playerGrid_size hdrawn
  have hground := hdate.ground_eq map hmap
  refine ⟨hgeneration, grid, hgrid, ⟨map, hmap, player, hdrawn⟩, ?_, ?_⟩
  · rw [hwidth, FieldMap.width, hground, FieldMap.width]
  · rw [hheight, FieldMap.height, hground, FieldMap.height]

end

/-- The surroundings of a data set with one map of two tiles, which is saved again and again without
a change. `saved` is the time of the last save. -/
private structure PondFiles where
  saved : Int

/-- The file of the map. -/
private def pondPath : FilePath := ⟨"pond"⟩

/-- The text of the map. -/
private def pondBytes : Bytes := "\x7b\"tileset_id\":1,\"width\":2,\"height\":1\x7d".toUTF8.toList

/-- The record that the text stands for. -/
private def pondRecord : MapRecord := { tileset := 1, width := 2, height := 1 }

private instance : DataSource (StateM PondFiles) where
  read path := return .ok (if path = pondPath then pondBytes else "[]".toUTF8.toList)
  modified _ := do return .ok { seconds := (← get).saved }
  observe _ := return false
  noticed := return true
  pause _ := return ()

private instance : BitmapLoader (StateM PondFiles) := .blank

/-- The context of a session in debug mode with the map on screen. -/
private def pondContext : FieldContext :=
  { layout := { tablePath := fun _ => ⟨"table"⟩, mapPath := fun _ => pondPath, watchRoot := none }
    snapshot := { map := FieldMap.ofRecord 1 pondRecord [] {} }
    player := { character := "" }
    scene := .map { map := 1, tileset := .placeholder, characters := [] }
    debug := true }

/-- A watcher that has seen an earlier save. -/
private def pondWatcher : ReloadWatcher :=
  { config := { confirmFingerprint := false }
    marker := .actors
    baseline := some { seconds := 0 } }

/-- The session, with a hidden overlay. -/
private def pondSession : Session Empty :=
  { context := pondContext, plugins := [.reload pondWatcher, .overlay (ownOverlay {})]
    interpreter := .ofConfig 0 {} }

/-- The input that switches the overlay. -/
private def switching : Input := { triggered := [.debugOverlay] }

/-- The overlay when it has been switched on, with tilemaps refused from then on or granted. -/
private def pondOverlay (refuses : Bool) : Overlay :=
  let o := ((ownOverlay {}).onUpdate switching pondContext).plugin
  { o with canvas := { o.canvas with refusesTilemaps := refuses } }

/-- The session after a frame in which the overlay has been switched on. -/
private def pondShown : Session Empty :=
  { pondSession with
    context := pondContext.notify (.overlayShown 1 2)
    plugins :=
      [.reload pondWatcher, .overlay ((ownOverlay {}).onUpdate switching pondContext).plugin]
    frame := 1 }

/-- The tick that reloads the map after the next save. -/
private def pondTick : ReloadTick :=
  { result := .ok .committed
    watcher := { pondWatcher with baseline := some { seconds := 1 }, reloads := 1 }
    context := { pondShown.context with generation := 1 }.notify (.reloadCommitted 1) }

/-- The session after the next frame, in which the map is reloaded. -/
private def pondSaved (refuses : Bool) : Session Empty :=
  (pondShown.refusingTilemaps refuses).looked (ownHooks (pondOverlay refuses) {} pondTick)

/-- The frame in which the overlay is switched on. -/
private theorem update_pond : Yields (pondSession.update switching) (⟨0⟩ : PondFiles)
    (.ok .idle, pondShown) ⟨0⟩ := by
  unfold Yields
  cbv

set_option maxRecDepth 4000 in
/-- The data set is loaded as it is. -/
private theorem load_pond (files : PondFiles) :
    Yields (Snapshot.load pondContext.layout 1 {} : Reading (StateM PondFiles) Snapshot).run files
      (.ok pondContext.snapshot) files := by
  have htables : Yields (DataTables.load pondContext.layout :
      Reading (StateM PondFiles) DataTables).run files (.ok {}) files := by
    unfold Yields
    cbv
  have hmap : Yields (loadMap pondContext.layout 1 : Reading (StateM PondFiles) MapRecord).run files
      (.ok pondRecord) files := by
    have hread : Json.read MapRecord.shape pondBytes = .ok pondRecord := by cbv
    show Yields (pure (decodeMap pondPath pondBytes)) _ _ _
    rw [decodeMap, hread]
    exact yields_pure.mpr ⟨rfl, rfl⟩
  exact yields_except_bind.mpr (.inl ⟨_, files, htables, yields_except_bind.mpr
    (.inl ⟨_, files, hmap, yields_except_pure.mpr ⟨rfl, rfl⟩⟩)⟩)

open ReloadWatcher in
/-- After the next save the watcher reloads the map. -/
private theorem tick_pond :
    Yields (pondWatcher.tick pondShown.context) (⟨1⟩ : PondFiles) pondTick ⟨1⟩ := by
  have hlook : pondWatcher.Looks pondShown.context (⟨1⟩ : PondFiles) (.ok { seconds := 1 }) ⟨1⟩ :=
    .intro rfl (yields_pure.mpr ⟨rfl, rfl⟩) (.inl rfl) rfl
  have hcall : pondWatcher.CallsFor { seconds := 1 } :=
    ⟨{ seconds := 0 }, rfl, by decide, by decide⟩
  have hload : { pondWatcher with phase := .reloading }.LoadsSnapshot pondShown.context
      (⟨1⟩ : PondFiles) none (.ok pondContext.snapshot) ⟨1⟩ :=
    .intro rfl (yields_pure.mpr ⟨rfl, rfl⟩) (load_pond ⟨1⟩)
  have hscene : Yields (MapScene.build {} (placed pondShown.context pondContext.snapshot)
      pondContext.player) (⟨1⟩ : PondFiles)
      (.ok { map := 1, tileset := .placeholder, characters := [] }, {}) ⟨1⟩ := by
    unfold Yields
    cbv
  have hconfirm : { pondWatcher with phase := .reloading }.Confirms pondShown.context
      (⟨1⟩ : PondFiles) pondContext.snapshot ⟨1⟩ := .intro hload (yields_pure.mpr ⟨rfl, rfl⟩)
  exact hlook.yields_tick
    (hcall.yields_react rfl (Reloads.committed hconfirm hscene).yields_reload)

/-- The frame in which the map is reloaded. -/
private theorem update_pondShown (refuses : Bool) :
    Yields ((pondShown.refusingTilemaps refuses).update {}) (⟨1⟩ : PondFiles)
      (.ok .idle, pondSaved refuses) ⟨1⟩ := by
  refine yields_update_own (o := pondOverlay refuses) rfl tick_pond ?_ ?_ ?_
  · cases refuses <;> cbv
  · cases refuses <;> cbv
  · unfold Yields
    cases refuses <;> cbv

/-- A course up to the frame in which the overlay is switched on. -/
private theorem course_pondShown {P : Session Empty → Input → Session Empty → Prop}
    (hP : P pondSession switching pondShown) : ∃ forms, Course PondFiles P pondShown [] forms := by
  have hbegun : Course PondFiles P pondSession [] [pondSession.context.snapshot.map] :=
    .begun rfl rfl (by rintro ⟨map, blocked, hlast⟩; cases hlast)
  exact ⟨_, hbegun.updated (yields_run ..) update_pond hP⟩

/-- While the overlay is shown the map is reloaded, and its grid is drawn anew. -/
theorem shown_grid_current_pond :
    ∃ forms, Course PondFiles (fun _ _ _ => True) (pondSaved false) [] forms ∧
      ∃ w o, (pondSaved false).plugins = [.reload w, .overlay o] ∧ o.enabled = true ∧
        o.generation = 1 ∧ ∃ grid, o.grid = some grid ∧ grid.DrawnFrom forms ∧
          grid.width = 2 ∧ grid.height = 1 := by
  obtain ⟨forms, hshown⟩ := course_pondShown (P := fun _ _ _ => True) trivial
  have hcourse := (hshown.refusing false).updated (yields_run ..) (update_pondShown false) trivial
  obtain ⟨w, o, hplugins, hcurrent⟩ := shown_grid_current hcourse
  have henabled : o.enabled = true := by
    have hoverlay : (pondSaved false).overlay? = some o := by rw [overlay?, hplugins]; rfl
    have hsome : (pondSaved false).overlay?.map (·.enabled) = some true := by cbv
    rw [hoverlay] at hsome
    exact Option.some.inj hsome
  obtain ⟨hgeneration, grid, hgrid, hdrawn, hwidth, hheight⟩ := hcurrent henabled
  have hpresent : (pondSaved false).context.generation = 1 := by cbv
  have hsize : (pondSaved false).context.snapshot.map.width = 2 ∧
      (pondSaved false).context.snapshot.map.height = 1 := by
    constructor <;> cbv
  exact ⟨_, hcourse, w, o, hplugins, henabled, hgeneration.trans hpresent, grid, hgrid, hdrawn,
    hwidth.trans hsize.1, hheight.trans hsize.2⟩

section

variable {s : Session Empty} {forms : List FieldMap} {taken : NoticeBoard}
  {P : Session Empty → Input → Session Empty → Prop} {σ : Type} [DataSource (StateM σ)]
  [BitmapLoader (StateM σ)]

/-- **The notices of the overlay say whether it is shown**, except where a frame loses it. If the
overlay is shown after a call of the host, the last notice of the overlay pushed so far tells so.
The converse holds too as long as no frame has lost the overlay. A frame that loses it leaves it
hidden, with a last notice that it is shown. -/
theorem overlay_notices (h : Course σ P s taken forms) :
    ∃ w o, s.plugins = [.reload w, .overlay o] ∧
      (o.enabled = true → (taken ++ s.context.notices).TellsShown) ∧
      (Lossless P → (taken ++ s.context.notices).TellsShown → o.enabled = true) ∧
      ∀ {input : Input} {outcome : Except Fault TickOutcome} {s' : Session Empty} {a b : σ},
        Yields (s.update input) a (outcome, s') b → s.LosesOverlay input s' →
          ∃ w' o', s'.plugins = [.reload w', .overlay o'] ∧ o'.enabled = false ∧
            (taken ++ s'.context.notices).TellsShown := by
  obtain ⟨w, o, hplugins, hinformed⟩ := h.informed
  refine ⟨w, o, hplugins, hinformed.of_shown, hinformed.of_told, fun hupdate hloses => ?_⟩
  obtain ⟨w₁, o₁, hdate⟩ := h.upToDate
  obtain rfl := hdate.overlay_eq hplugins
  obtain ⟨w', o', hplugins', -, hlost⟩ := update_informs hdate hupdate
  obtain ⟨hhidden, htold⟩ := hlost hloses
  obtain ⟨lost, hoverlay, henabled, -⟩ := hloses.shown
  have hsame : o₁ = lost := by
    rw [overlay?, hplugins] at hoverlay
    exact Option.some.inj hoverlay
  exact ⟨w', o', hplugins', hhidden,
    (htold.tellsShown_iff taken).mpr (hinformed.of_shown (hsame ▸ henabled))⟩

end

/-- The host has been told that the overlay is switched on, and no frame has lost it. If the map is
reloaded next while tilemaps are refused, the overlay is hidden and the host is told otherwise. -/
theorem overlay_notices_pond :
    ∃ forms, Course PondFiles (fun s input s' => ¬ s.LosesOverlay input s')
        (pondShown.refusingTilemaps true) [] forms ∧
      Lossless (fun s input s' => ¬ s.LosesOverlay input s') ∧
      (NoticeBoard.TellsShown ([] ++ (pondShown.refusingTilemaps true).context.notices) ∧
        ∃ w o, (pondShown.refusingTilemaps true).plugins = [.reload w, .overlay o] ∧
          o.enabled = true) ∧
      (pondShown.refusingTilemaps true).LosesOverlay {} (pondSaved true) ∧
      ∃ w o, (pondSaved true).plugins = [.reload w, .overlay o] ∧ o.enabled = false ∧
        NoticeBoard.TellsShown ([] ++ (pondSaved true).context.notices) := by
  have hfirst : ¬ pondSession.LosesOverlay switching pondShown := fun hloses =>
    absurd hloses.untouched (by decide)
  obtain ⟨forms, hshown⟩ :=
    course_pondShown (P := fun s input s' => ¬ s.LosesOverlay input s') hfirst
  have hlossless : Lossless fun s input s' => ¬ s.LosesOverlay input s' := fun _ _ _ h => h
  have htold : NoticeBoard.TellsShown ([] ++ (pondShown.refusingTilemaps true).context.notices) :=
    ⟨1, 2, rfl⟩
  have hloses : (pondShown.refusingTilemaps true).LosesOverlay {} (pondSaved true) := by
    refine ⟨⟨pondOverlay true, rfl, ?_, ?_⟩, rfl, ?_⟩
    · cbv
    · cbv
    · have hgeneration : (pondSaved true).context.generation = 1 := by cbv
      rw [hgeneration]
      decide
  obtain ⟨w, o, hplugins, -, htells, hlost⟩ := overlay_notices (hshown.refusing true)
  exact ⟨forms, hshown.refusing true, hlossless, ⟨htold, w, o, hplugins, htells hlossless htold⟩,
    hloses, hlost (update_pondShown true) hloses⟩

/-- A course at the end of which the overlay is hidden and the last notice of the overlay tells that
it is shown. -/
theorem reload_hides_untold :
    ∃ forms, Course PondFiles (fun _ _ _ => True) (pondSaved true) [] forms ∧
      (pondSaved true).overlay?.map (·.enabled) = some false ∧
      (pondSaved true).context.notices = [.overlayShown 1 2, .reloadCommitted 1] ∧
      NoticeBoard.TellsShown ([] ++ (pondSaved true).context.notices) := by
  obtain ⟨forms, hshown⟩ := course_pondShown (P := fun _ _ _ => True) trivial
  have hcourse := (hshown.refusing true).updated (yields_run ..) (update_pondShown true) trivial
  have hnotices : (pondSaved true).context.notices = [.overlayShown 1 2, .reloadCommitted 1] := by
    cbv
  exact ⟨_, hcourse, by cbv, hnotices, 1, 2, by rw [hnotices]; rfl⟩

end Session

end Overworld
