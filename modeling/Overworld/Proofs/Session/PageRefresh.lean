import Mathlib
import Overworld.Proofs.Interpreter.Loop
import Overworld.Proofs.Session.Hooks
import Overworld.Proofs.Session.Parts
import Overworld.Session.Run

/-!
# No page refresh is lost

Self switches are written by commands, by scripts and by the host, and every write asks for a
refresh of the live map. What a frame does besides keeps pages, so in every session that a host
can have either a refresh is still asked for, or every event is on its due page.
-/

namespace Overworld

/-- A step of a world loses no refresh: a write of a switch asks for one. -/
theorem World.Step.tracks {w w' : World} (hstep : World.Step w w') (h : w.map.Tracks w.switches) :
    w'.map.Tracks w'.switches := by
  cases hstep with
  | log | transfer => exact h
  | refresh | assign => exact .inl rfl

/-- Steps of a world, one after the other, lose no refresh. -/
theorem World.Steps.tracks {w w' : World} (hsteps : World.Steps w w')
    (h : w.map.Tracks w.switches) : w'.map.Tracks w'.switches := by
  induction hsteps with
  | refl => exact h
  | tail _ hstep ih => exact hstep.tracks ih

namespace Session

section

variable {s : Session Empty}

/-- Starting an event has nothing to do with pages. -/
theorem startEvent_context (s : Session Empty) (event : UInt32) :
    (s.startEvent event).2.context = s.context := rfl

/-- Calling an event has nothing to do with pages. -/
theorem callEvent_context (s : Session Empty) (target : CallTarget) :
    (s.callEvent target).2.context = s.context := rfl

/-- A switch that the host sets asks for a refresh. -/
theorem setSwitchOf_tracks (s : Session Empty) (name switch : String) (value : Bool) :
    (s.setSwitchOf name switch value).context.Tracks := .inl rfl

/-- A tick of the interpreter loses no refresh, also if it fails. -/
theorem runInterpreter_tracks (h : s.context.Tracks) : s.runInterpreter.2.context.Tracks := by
  have hworld := (s.interpreter.tick_steps s.world).tracks h
  unfold runInterpreter
  rw [Interpreter.update_eq]
  cases (s.interpreter.tick s.world).result <;> exact hworld

/-- Carrying out the refresh that is asked for leaves nothing to refresh. -/
theorem refreshIfNeeded_refreshed (h : s.context.Tracks) :
    s.refreshIfNeeded.context.Refreshed := by
  obtain ⟨hdue, hneed⟩ := FieldMap.Tracks.refreshIfNeeded h
  exact ⟨hneed, hdue⟩

end

section

variable {σ : Type} [DataSource (StateM σ)] [BitmapLoader (StateM σ)] {s s' : Session Empty}
  {result : Except Fault Unit} {a b : σ}

/-- The parts of a transfer keep pages, unless they put a new map in place. -/
theorem transferParts_keepsPages : TransferParts σ Empty FieldContext.KeepsPages where
  refl := .refl
  trans := .trans
  screen _ _ _ _ := .inl ⟨rfl, rfl, rfl, rfl⟩
  scroll _ := .inl ⟨rfl, rfl, rfl, rfl⟩
  enter c id record := by
    obtain ⟨hdue, hneed⟩ := FieldMap.ofRecord_pagesDue id record c.snapshot.tables.tilesets
      c.switches
    exact .inr ⟨hneed, hdue⟩
  arrived _ _ _ _ _ := .inl ⟨rfl, rfl, rfl, rfl⟩
  transferHook := Extension.onTransfer_keepsPages

variable {outcome : Except Fault TickOutcome} {input : Input}

/-- The part of a frame that needs the map on screen loses no refresh, and leaves nothing to
refresh unless it fails. -/
theorem playMap_tracks (h : Yields (s.playMap input) a (outcome, s') b) (htracks : s.context.Tracks) :
    s'.context.Tracks ∧ (outcome.isOk = true → s'.context.Refreshed) := by
  -- The interpreter may ask for a refresh again; behind the second one nothing does.
  have hrefreshed := refreshIfNeeded_refreshed htracks
  have hran := runInterpreter_tracks hrefreshed.tracks
  unfold playMap at h
  obtain ⟨⟨ended, s₁⟩, hrun⟩ : ∃ run, s.refreshIfNeeded.runInterpreter = run := ⟨_, rfl⟩
  rw [hrun] at h hran
  cases ended with
  | error fault =>
    obtain ⟨rfl, rfl, -⟩ := yields_pair.mp h
    exact ⟨hran, fun hok => by cases hok⟩
  | ok ended =>
    have hagain := refreshIfNeeded_refreshed hran
    simp only [yields_bind, yields_pair] at h
    obtain ⟨⟨settled, s₂⟩, a₁, hsettle, -, rfl, -⟩ := h
    have hkeeps := transferParts_keepsPages.settleTransfer hsettle
    split at hkeeps
    · have hend := hkeeps.refreshed hagain
      exact ⟨hend.tracks, fun _ => hend⟩
    · have hreacts := (transferParts_keepsPages (σ := σ)).reactToInput s₁.refreshIfNeeded input
      have hend := hkeeps.refreshed (hreacts.refreshed hagain)
      exact ⟨hend.tracks, fun _ => hend⟩

/-- A frame loses no refresh, and leaves nothing to refresh if the map is on screen, unless it
fails. -/
theorem update_tracks (h : Yields (s.update input) a (outcome, s') b) (htracks : s.context.Tracks) :
    s'.context.Tracks ∧ (outcome.isOk = true → s'.context.scene.isMap = true →
      s'.context.Refreshed) := by
  simp only [update, Plugin.updateAll, yields_bind] at h
  obtain ⟨run, a₁, hrun, h⟩ := h
  have hhooks : s.context.KeepsPages run.context :=
    transferParts_keepsPages.runAll Extension.update_keepsPages hrun
  have hrunTracks := hhooks.tracks htracks
  cases hresult : run.result with
  | error fault =>
    simp only [hresult, yields_pair] at h
    obtain ⟨rfl, rfl, -⟩ := h
    exact ⟨hrunTracks, fun hok => by cases hok⟩
  | ok =>
    simp only [hresult] at h
    split at h
    case isTrue hmap =>
      obtain ⟨htracks', hend⟩ := playMap_tracks h hrunTracks
      exact ⟨htracks', fun hok _ => hend hok⟩
    case isFalse hmap =>
      simp only [yields_pair] at h
      obtain ⟨rfl, rfl, -⟩ := h
      exact ⟨hrunTracks, fun _ hscene => absurd hscene hmap⟩

/-- A new session has nothing to refresh. -/
theorem start_refreshed {config : FieldConfig} {layout : DataLayout} {debug : Bool}
    (h : Yields (Session.start config layout debug) a (.ok s) b) : s.context.Refreshed := by
  simp only [start, yields_bind] at h
  obtain ⟨loaded, a₁, hload, h⟩ := h
  cases loaded with
  | error fault =>
    obtain ⟨hresult, -⟩ := yields_pure.mp h
    cases hresult
  | ok snapshot =>
    obtain ⟨⟨scene, bitmaps⟩, a₂, -, h⟩ := yields_bind.mp h
    cases scene with
    | error fault =>
      obtain ⟨hresult, -⟩ := yields_pure.mp h
      cases hresult
    | ok scene =>
      obtain ⟨hresult, -⟩ := yields_pure.mp h
      cases hresult
      obtain ⟨hdue, hneed⟩ := Snapshot.load_pagesDue hload
      exact ⟨hneed, hdue⟩

/-- Registering one of a session's own plugins keeps pages. -/
theorem register_keepsPages {plugin : Extension Empty}
    (h : Yields (s.register plugin) a (result, s') b) : s.context.KeepsPages s'.context := by
  simp only [register, Plugin.register, yields_bind, yields_pure] at h
  obtain ⟨run, a₁, ⟨hooked, a₂, hbuild, h⟩, hpair, -⟩ := h
  cases hpair
  have hkeeps := Extension.build_keepsPages hbuild
  split at h
  · obtain ⟨rfl, -⟩ := yields_pure.mp h
    exact hkeeps
  · obtain ⟨rfl, -⟩ := yields_pure.mp h
    exact hkeeps

/-- Registering a session's own plugins keeps pages. -/
theorem withOwnPlugins_keepsPages (h : Yields s.withOwnPlugins a (result, s') b) :
    s.context.KeepsPages s'.context := by
  simp only [withOwnPlugins, yields_bind] at h
  obtain ⟨⟨registered, s₁⟩, a₁, hwatcher, h⟩ := h
  have hkeeps := register_keepsPages hwatcher
  cases registered with
  | error fault =>
    obtain ⟨-, rfl, -⟩ := yields_pair.mp h
    exact hkeeps
  | ok => exact hkeeps.trans (register_keepsPages h)

end

/-- The sessions that a host can have: new ones with a session's own plugins, and what updates,
transfers, changes of the scene and the calls that are open to the host make of them, whether these
fail or not. The surroundings may be any at every one of these. -/
inductive Reachable (σ : Type) [DataSource (StateM σ)] [BitmapLoader (StateM σ)] :
    Session Empty → Prop
  | new {config : FieldConfig} {layout : DataLayout} {debug : Bool} {s s' : Session Empty}
      {a a' b b' : σ} (hstart : Yields (Session.start config layout debug) a (.ok s) a')
      (hplugins : Yields s.withOwnPlugins b (.ok (), s') b') : Reachable σ s'
  | updated {s s' : Session Empty} {input : Input} {outcome : Except Fault TickOutcome} {a b : σ}
      (hs : Reachable σ s) (h : Yields (s.update input) a (outcome, s') b) : Reachable σ s'
  | transferred {s s' : Session Empty} {target : UInt32} {x y : Int} {result : Except Fault Unit}
      {a b : σ} (hs : Reachable σ s) (h : Yields (s.transfer target x y) a (result, s') b) :
      Reachable σ s'
  | sceneChanged {s s' : Session Empty} {kind : SceneKind} {result : Except Fault Unit} {a b : σ}
      (hs : Reachable σ s) (h : Yields (s.setScene kind) a (result, s') b) : Reachable σ s'
  | eventStarted {s : Session Empty} (hs : Reachable σ s) (event : UInt32) :
      Reachable σ (s.startEvent event).2
  | eventCalled {s : Session Empty} (hs : Reachable σ s) (target : CallTarget) :
      Reachable σ (s.callEvent target).2
  | switchSet {s : Session Empty} (hs : Reachable σ s) (name switch : String) (value : Bool) :
      Reachable σ (s.setSwitchOf name switch value)
  | noticesTaken {s : Session Empty} (hs : Reachable σ s) : Reachable σ s.takeNotices.2

section

variable {σ : Type} [DataSource (StateM σ)] [BitmapLoader (StateM σ)] {s : Session Empty}

/-- No session that a host can have loses a refresh. -/
theorem Reachable.tracks (h : Reachable σ s) : s.context.Tracks := by
  induction h with
  | new hstart hplugins =>
    exact (withOwnPlugins_keepsPages hplugins).tracks (start_refreshed hstart).tracks
  | updated _ h ih => exact (update_tracks h ih).1
  | transferred _ h ih => exact (transferParts_keepsPages.transfer h).tracks ih
  | sceneChanged _ h ih => exact (transferParts_keepsPages.setScene h).tracks ih
  | eventStarted _ event ih => exact startEvent_context _ event ▸ ih
  | eventCalled _ target ih => exact callEvent_context _ target ▸ ih
  | switchSet => exact setSwitchOf_tracks ..
  | noticesTaken _ ih => exact ih

/-- **No page refresh is ever lost.** In every session that a host can have, a refresh of the live
map is asked for, or every event that is not erased is on the last page whose condition holds under
the present self switches. After every update that succeeds with the map on screen no refresh is
asked for. -/
theorem reachable_no_refresh_lost (h : Reachable σ s) :
    (s.context.snapshot.map.needRefresh = true ∨
      ∀ e ∈ s.context.snapshot.map.events.toList, e.erased = false →
        e.OnDuePage s.context.mapId s.context.switches) ∧
    ∀ {input : Input} {outcome : TickOutcome} {s' : Session Empty} {a b : σ},
      Yields (s.update input) a (.ok outcome, s') b → s'.context.scene.isMap = true →
        s'.context.snapshot.map.needRefresh = false :=
  ⟨h.tracks, fun hupdate hscene => ((update_tracks hupdate h.tracks).2 rfl hscene).1⟩

end

/-- The surroundings of a data set that never changes. Its tables are empty, and on its map is a
lamp, which has a page for when its switch is on. -/
private structure LampFiles where

/-- The file of the map. -/
private def lampPath : FilePath := ⟨"map"⟩

/-- Where the files of the data set are. -/
private def lampLayout : DataLayout :=
  { tablePath := fun _ => ⟨"table"⟩, mapPath := fun _ => lampPath, watchRoot := none }

/-- The text of the map. -/
private def lampBytes : Bytes :=
  "[0,1,1,[],[[1,\"lamp\",0,0,[[],[[\"A\"]]]]]]".toUTF8.toList

/-- The record that the text stands for. -/
private def lampRecord : MapRecord :=
  { width := 1, height := 1
    events := [{ id := 1, name := "lamp", pages := [{}, { condition := { selfSwitch := "A" } }] }] }

private instance : DataSource (StateM LampFiles) where
  read path := return .ok (if path = lampPath then lampBytes else "[]".toUTF8.toList)
  modified _ := return .ok { seconds := 0 }
  observe _ := return false
  noticed := return true
  pause _ := return ()

private instance : BitmapLoader (StateM LampFiles) := .blank

/-- Every table is read as an empty one. -/
private theorem loadTable_lamp {α : Type} (shape : Json.Shape α) (kind : TableKind) :
    Yields (loadTable lampLayout shape kind : Reading (StateM LampFiles) (List α)).run ⟨⟩
      (.ok []) ⟨⟩ := by
  have hread : Json.read (.list shape) "[]".toUTF8.toList = .ok [] := by cbv
  show Yields (pure (decodeTable shape kind _ "[]".toUTF8.toList)) _ _ _
  rw [decodeTable, hread]
  exact yields_pure.mpr ⟨rfl, rfl⟩

/-- The map is read as its record. -/
private theorem loadMap_lamp :
    Yields (loadMap lampLayout 1 : Reading (StateM LampFiles) MapRecord).run ⟨⟩
      (.ok lampRecord) ⟨⟩ := by
  have hread : Json.read MapRecord.shape lampBytes = .ok lampRecord := by cbv
  show Yields (pure (decodeMap lampPath lampBytes)) _ _ _
  rw [decodeMap, hread]
  exact yields_pure.mpr ⟨rfl, rfl⟩

/-- The live map of the record. -/
private def lampMap : FieldMap := FieldMap.ofRecord 1 lampRecord [] {}

/-- The bitmap of the player. -/
private def heroBitmap : Bitmap :=
  { width := 32, height := 32, source := "Graphics/Characters/hero" }

/-- The session that starts on the map. -/
private def lampSession : Session Empty :=
  { context :=
      { layout := lampLayout, snapshot := { map := lampMap.centerOn 0 0 {} }
        scene := .map
          { map := 1, tileset := .placeholder
            characters := [{ event := none, bitmap := heroBitmap }] }
        bitmaps :=
          { entries := [({ folder := characterFolder, file := "hero", hue := 0 }, heroBitmap)] } }
    interpreter := .ofConfig 0 {} }

/-- A session starts with these settings. -/
private theorem start_lamp : Yields (Session.start {} lampLayout false) (⟨⟩ : LampFiles)
    (.ok lampSession) ⟨⟩ := by
  have htables : Yields (DataTables.load lampLayout : Reading (StateM LampFiles) DataTables).run ⟨⟩
      (.ok {}) ⟨⟩ := by
    simp only [DataTables.load]
    iterate 6 refine yields_except_bind.mpr (.inl ⟨_, ⟨⟩, loadTable_lamp _ _, ?_⟩)
    exact yields_except_pure.mpr ⟨rfl, rfl⟩
  have hload : Yields (Snapshot.load lampLayout 1 {} : Reading (StateM LampFiles) Snapshot).run ⟨⟩
      (.ok { map := lampMap }) ⟨⟩ :=
    yields_except_bind.mpr (.inl ⟨_, ⟨⟩, htables, yields_except_bind.mpr
      (.inl ⟨_, ⟨⟩, loadMap_lamp, yields_except_pure.mpr ⟨rfl, rfl⟩⟩)⟩)
  have hscene : Yields (MapScene.build {} { map := lampMap } {}) (⟨⟩ : LampFiles)
      (.ok { map := 1, tileset := .placeholder
             characters := [{ event := none, bitmap := heroBitmap }] },
        { entries := [({ folder := characterFolder, file := "hero", hue := 0 }, heroBitmap)] })
      ⟨⟩ := by
    unfold Yields
    cbv
  exact yields_bind.mpr ⟨_, ⟨⟩, hload, yields_bind.mpr ⟨_, ⟨⟩, hscene, yields_pure.mpr ⟨rfl, rfl⟩⟩⟩

/-- The plugins of the session. -/
private def lampPlugins : List (Extension Empty) :=
  [.reload { config := {}, marker := .actors, baseline := some { seconds := 0 } },
    .overlay { config := {}, screen := {} }]

/-- A host can have the session. -/
private theorem lampSession_reachable :
    Reachable LampFiles { lampSession with plugins := lampPlugins } := by
  have hplugins : Yields lampSession.withOwnPlugins (⟨⟩ : LampFiles)
      (.ok (), { lampSession with plugins := lampPlugins }) ⟨⟩ := by
    unfold Yields
    cbv
  exact .new start_lamp hplugins

/-- The session when the host has just switched the lamp on. -/
private def litSession : Session Empty :=
  { lampSession with plugins := lampPlugins }.setSwitchOf "lamp" "A" true

/-- The update after that. -/
private def litUpdate : (Except Fault TickOutcome × Session Empty) × LampFiles :=
  ((litSession.update {} : StateM LampFiles _).run ⟨⟩).run

/-- It succeeds with the map on screen, and the lamp turns to its other page. -/
private theorem litUpdate_succeeds : litUpdate.1.1 = .ok .idle ∧
    litUpdate.1.2.context.scene.isMap = true ∧
    litUpdate.1.2.context.snapshot.map.events.toList.map (·.page) = [some 1] := by
  cbv

/-- When the host switches the lamp on, it is still on its first page, but a refresh is asked for.
The update after that turns it to the other page, and no refresh is asked for any more. -/
theorem lampSession_no_refresh_lost :
    Reachable LampFiles litSession ∧ litSession.context.snapshot.map.needRefresh = true ∧
      litSession.context.snapshot.map.events.toList.map (·.page) = [some 0] ∧
      ∃ s', Yields (litSession.update {}) (⟨⟩ : LampFiles) (.ok .idle, s') ⟨⟩ ∧
        s'.context.snapshot.map.needRefresh = false ∧
        s'.context.snapshot.map.events.toList.map (·.page) = [some 1] ∧
        ∀ e ∈ s'.context.snapshot.map.events.toList, e.erased = false →
          e.OnDuePage s'.context.mapId s'.context.switches := by
  have hlit : Reachable LampFiles litSession := lampSession_reachable.switchSet "lamp" "A" true
  obtain ⟨hok, hscene, hpages⟩ := litUpdate_succeeds
  have hupdate : Yields (litSession.update {}) (⟨⟩ : LampFiles) (.ok .idle, litUpdate.1.2) ⟨⟩ := by
    rw [← hok]
    rfl
  have hneed := (reachable_no_refresh_lost hlit).2 hupdate hscene
  have hdue := (reachable_no_refresh_lost (hlit.updated hupdate)).1.resolve_left
  rw [hneed] at hdue
  exact ⟨hlit, rfl, rfl, _, hupdate, hneed, hpages, hdue Bool.false_ne_true⟩

end Session

end Overworld
