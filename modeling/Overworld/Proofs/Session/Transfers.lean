import Mathlib
import Overworld.Proofs.Session.Hooks

/-!
# Transfers that fail

A transfer can fail in three places. Up to the second one, where the new map is read, the plugins
alone have touched the session. Behind it the map is replaced, the player is moved and only then
the scene is built, so a transfer that fails there has moved the player to a map that is not on
screen.
-/

namespace Overworld

/-- A board with further notices, all of a kind. -/
def NoticeBoard.Adds (p : Notice → Prop) (l l' : NoticeBoard) : Prop :=
  ∃ told : NoticeBoard, l' = l ++ told ∧ ∀ n ∈ told, p n

namespace NoticeBoard

variable {p : Notice → Prop} {l l' l'' : NoticeBoard}

/-- Nothing is added. -/
theorem Adds.refl (p : Notice → Prop) (l : NoticeBoard) : l.Adds p l :=
  ⟨[], (List.append_nil _).symm, fun _ hn => absurd hn List.not_mem_nil⟩

/-- One notice is added. -/
theorem Adds.single (l : NoticeBoard) {notice : Notice} (h : p notice) : l.Adds p (l ++ [notice]) :=
  ⟨[notice], rfl, fun _ hn => List.mem_singleton.mp hn ▸ h⟩

/-- What is added twice in a row is added. -/
theorem Adds.trans (h : l.Adds p l') (h' : l'.Adds p l'') : l.Adds p l'' := by
  obtain ⟨told, rfl, htold⟩ := h
  obtain ⟨told', rfl, htold'⟩ := h'
  exact ⟨told ++ told', List.append_assoc .., fun n hn =>
    (List.mem_append.mp hn).elim (htold n) (htold' n)⟩

end NoticeBoard

/-- A notice of a transfer. -/
def Notice.OfTransfer : Notice → Prop
  | .mapTransferred .. => True
  | _ => False

namespace FieldContext

/-- The world of one context is that of the other one: the loaded data, the player and the scene.
In between the host has not been told of a transfer. -/
structure SameWorld (c c' : FieldContext) : Prop where
  snapshot_eq : c'.snapshot = c.snapshot
  player_eq : c'.player = c.player
  scene_eq : c'.scene = c.scene
  told : c.notices.Adds (¬ ·.OfTransfer) c'.notices

/-- A map on screen is the live map. -/
def ShowsLiveMap (c : FieldContext) : Prop := ∀ scene, c.scene = .map scene → scene.map = c.mapId

variable {c c' c'' : FieldContext}

/-- Where nothing happens the world stays as it is. -/
theorem SameWorld.refl (c : FieldContext) : c.SameWorld c := ⟨rfl, rfl, rfl, .refl ..⟩

/-- A notice of something else leaves the world as it is. -/
theorem SameWorld.notify (c : FieldContext) {notice : Notice} (hnotice : ¬ notice.OfTransfer) :
    c.SameWorld (c.notify notice) :=
  ⟨rfl, rfl, rfl, .single _ hnotice⟩

/-- The same world twice is the same world. -/
theorem SameWorld.trans (h : c.SameWorld c') (h' : c'.SameWorld c'') : c.SameWorld c'' :=
  ⟨h'.snapshot_eq.trans h.snapshot_eq, h'.player_eq.trans h.player_eq,
    h'.scene_eq.trans h.scene_eq, h.told.trans h'.told⟩

end FieldContext

namespace Session

section

variable {σ ε : Type} [DataSource (StateM σ)] [BitmapLoader (StateM σ)] [Plugin (StateM σ) ε]

/-- A plugin whose transfer hook leaves the world as it is. -/
def Spares (σ : Type) [DataSource (StateM σ)] [BitmapLoader (StateM σ)] [Plugin (StateM σ) ε]
    (plugin : Extension ε) : Prop :=
  ∀ {source target : UInt32} {c : FieldContext} {hooked : Hooked (Extension ε)} {a b : σ},
    Yields (Plugin.onTransfer plugin source target c) a hooked b → c.SameWorld hooked.context

/-- The session after the transfer hooks. -/
def afterHooks (s : Session ε) (hooks : HookRun (Extension ε)) : Session ε :=
  { s with plugins := hooks.plugins, context := hooks.context }

/-- A transfer gets as far as its map: no hook has stopped it, and the map has been read unless the
player stays on the live one. The context is that with the map in place. -/
inductive Reaches (s : Session ε) (target : UInt32) (a : σ) :
    HookRun (Extension ε) → FieldContext → σ → Prop
  | here {hooks : HookRun (Extension ε)} {b : σ}
      (hhooks : Yields (Plugin.transferAll s.plugins s.context.mapId target s.context) a hooks b)
      (hok : hooks.result = .ok ()) (htarget : target = s.context.mapId) :
      Reaches s target a hooks hooks.context b
  | there {hooks : HookRun (Extension ε)} {record : MapRecord} {a₁ b : σ}
      (hhooks : Yields (Plugin.transferAll s.plugins s.context.mapId target s.context) a hooks a₁)
      (hok : hooks.result = .ok ()) (htarget : target ≠ s.context.mapId)
      (hload : Yields (loadMap hooks.context.layout target).run a₁ (.ok record) b) :
      Reaches s target a hooks (hooks.context.enterMap target record) b

/-- A transfer that gets as far as its map has had its hooks run. -/
theorem Reaches.hooks_run {s : Session ε} {target : UInt32} {hooks : HookRun (Extension ε)}
    {c : FieldContext} {a b : σ} (h : s.Reaches target a hooks c b) :
    ∃ a₁, Yields (Plugin.transferAll s.plugins s.context.mapId target s.context) a hooks a₁ := by
  cases h with
  | here hhooks => exact ⟨_, hhooks⟩
  | there hhooks => exact ⟨_, hhooks⟩

/-- The ways out of a transfer. -/
inductive TransferExits (s : Session ε) (target : UInt32) (x y : Int) (a : σ) :
    Except Fault Unit → Session ε → σ → Prop
  | refused {hooks : HookRun (Extension ε)} {fault : Fault} {b : σ}
      (hhooks : Yields (Plugin.transferAll s.plugins s.context.mapId target s.context) a hooks b)
      (hfault : hooks.result = .error fault) :
      TransferExits s target x y a (.error fault) (s.afterHooks hooks) b
  | unreadable {hooks : HookRun (Extension ε)} {fault : Fault} {a₁ b : σ}
      (hhooks : Yields (Plugin.transferAll s.plugins s.context.mapId target s.context) a hooks a₁)
      (hok : hooks.result = .ok ()) (htarget : target ≠ s.context.mapId)
      (hload : Yields (loadMap hooks.context.layout target).run a₁ (.error fault) b) :
      TransferExits s target x y a (.error fault) (s.afterHooks hooks) b
  | unseen {hooks : HookRun (Extension ε)} {c : FieldContext} {b : σ}
      (hreach : s.Reaches target a hooks c b) (hscene : c.scene.isMap = false) :
      TransferExits s target x y a (.ok ())
        { s.afterHooks hooks with
          context := (c.placePlayer x y).notify (.mapTransferred s.context.mapId target x y) } b
  | sceneFailed {hooks : HookRun (Extension ε)} {c : FieldContext} {fault : Fault}
      {bitmaps : BitmapCache} {a₁ b : σ} (hreach : s.Reaches target a hooks c a₁)
      (hscene : c.scene.isMap = true)
      (hbuild : Yields (MapScene.build c.bitmaps (c.placePlayer x y).snapshot
        (c.placePlayer x y).player) a₁ (.error fault, bitmaps) b) :
      TransferExits s target x y a (.error fault)
        { s.afterHooks hooks with context := { c.placePlayer x y with bitmaps } } b
  | shown {hooks : HookRun (Extension ε)} {c : FieldContext} {scene : MapScene}
      {bitmaps : BitmapCache} {a₁ b : σ} (hreach : s.Reaches target a hooks c a₁)
      (hscene : c.scene.isMap = true)
      (hbuild : Yields (MapScene.build c.bitmaps (c.placePlayer x y).snapshot
        (c.placePlayer x y).player) a₁ (.ok scene, bitmaps) b) :
      TransferExits s target x y a (.ok ())
        { s.afterHooks hooks with
          context := { c.placePlayer x y with bitmaps, scene := .map scene }.notify
            (.mapTransferred s.context.mapId target x y) } b

variable {s s' : Session ε} {target : UInt32} {x y : Int} {result : Except Fault Unit} {a b : σ}

omit [DataSource (StateM σ)] [Plugin (StateM σ) ε] in
/-- The map is put on screen if its scene can be built, and otherwise the old scene stays. -/
theorem setScene_map (h : Yields (s.setScene .map) a (result, s') b) :
    ∃ built bitmaps,
      Yields (MapScene.build s.context.bitmaps s.context.snapshot s.context.player) a
        (built, bitmaps) b ∧
      match built with
      | .error fault =>
        result = .error fault ∧ s' = { s with context := { s.context with bitmaps } }
      | .ok scene =>
        result = .ok () ∧
          s' = { s with context := { s.context with bitmaps, scene := .map scene } } := by
  simp only [setScene, FieldContext.buildScene, bind_assoc, pure_bind, yields_bind] at h
  obtain ⟨⟨built, bitmaps⟩, a₁, hbuild, h⟩ := h
  cases built with
  | error fault =>
    obtain ⟨rfl, rfl, rfl⟩ := yields_pair.mp h
    exact ⟨_, _, hbuild, rfl, rfl⟩
  | ok scene =>
    obtain ⟨rfl, rfl, rfl⟩ := yields_pair.mp h
    exact ⟨_, _, hbuild, rfl, rfl⟩

/-- A transfer that has got as far as its map arrives there, unless its scene cannot be built. -/
theorem arrive_exits {hooks : HookRun (Extension ε)} {c : FieldContext} {a₁ : σ}
    (hreach : s.Reaches target a hooks c a₁)
    (h : Yields ({ s.afterHooks hooks with context := c }.arrive s.context.mapId target x y) a₁
      (result, s') b) : s.TransferExits target x y a result s' b := by
  simp only [arrive, afterHooks] at h
  have hplaced : (c.placePlayer x y).scene = c.scene := rfl
  cases hscene : c.scene.isMap with
  | false =>
    simp only [hplaced, hscene, Bool.false_eq_true, if_false, pure_bind, yields_pair] at h
    obtain ⟨rfl, rfl, rfl⟩ := h
    exact .unseen hreach hscene
  | true =>
    simp only [hplaced, hscene, if_true, yields_bind] at h
    obtain ⟨⟨ended, s₁⟩, a₂, hset, h⟩ := h
    obtain ⟨built, bitmaps, hbuild, hends⟩ := setScene_map hset
    cases built with
    | error fault =>
      obtain ⟨rfl, rfl⟩ := hends
      obtain ⟨rfl, rfl, rfl⟩ := yields_pair.mp h
      exact .sceneFailed hreach hscene hbuild
    | ok scene =>
      obtain ⟨rfl, rfl⟩ := hends
      obtain ⟨rfl, rfl, rfl⟩ := yields_pair.mp h
      exact .shown hreach hscene hbuild

/-- **Every transfer takes one of the five ways out.** -/
theorem transfer_exits (h : Yields (s.transfer target x y) a (result, s') b) :
    s.TransferExits target x y a result s' b := by
  simp only [transfer, yields_bind] at h
  obtain ⟨hooks, a₁, hhooks, h⟩ := h
  cases hresult : hooks.result with
  | error fault =>
    simp only [hresult, yields_pair] at h
    obtain ⟨rfl, rfl, rfl⟩ := h
    exact .refused hhooks hresult
  | ok =>
    simp only [hresult] at h
    split at h
    case isTrue htarget => exact arrive_exits (.here hhooks hresult htarget) h
    case isFalse htarget =>
      obtain ⟨loaded, a₂, hload, h⟩ := yields_bind.mp h
      cases loaded with
      | error fault =>
        obtain ⟨rfl, rfl, rfl⟩ := yields_pair.mp h
        exact .unreadable hhooks hresult htarget hload
      | ok record => exact arrive_exits (.there hhooks hresult htarget hload) h

/-- The hooks of plugins that leave the world as it is leave it as it is. -/
theorem runAll_sameWorld {source : UInt32} {plugins : List (Extension ε)} {c : FieldContext}
    {run : HookRun (Extension ε)} (hplugins : ∀ plugin ∈ plugins, Spares σ plugin)
    (h : Yields (Plugin.transferAll plugins source target c) a run b) :
    c.SameWorld run.context := by
  induction plugins generalizing c run a b with
  | nil =>
    obtain ⟨rfl, -⟩ := yields_pure.mp h
    exact .refl c
  | cons plugin rest ih =>
    obtain ⟨hfirst, hothers⟩ := List.forall_mem_cons.mp hplugins
    simp only [Plugin.transferAll, Plugin.runAll, yields_bind, yields_pure] at h
    obtain ⟨hooked, a₁, hhook, later, a₂, hrest, rfl, -⟩ := h
    have hlater : hooked.context.SameWorld later.context := ih hothers hrest
    exact (hfirst hhook).trans hlater

/-- A session's own plugins leave the world as it is. -/
theorem spares_own {plugin : Extension ε} (hown : ∀ p, plugin ≠ .custom p) : Spares σ plugin := by
  intro source target c hooked a b h
  cases plugin with
  | reload w =>
    obtain ⟨rfl, -⟩ := yields_pure.mp h
    exact .refl c
  | overlay o =>
    obtain ⟨rfl, -⟩ := yields_pure.mp h
    simp only [Extension.lift, Overlay.onTransfer]
    split
    · exact .notify c id
    · exact .refl c
  | custom p => exact absurd rfl (hown p)

/-- The map that a transfer puts in place: the live one if the player stays on it, and otherwise
that of a record that has been read of the target. -/
def Destination (σ : Type) [DataSource (StateM σ)] (c : FieldContext) (source target : UInt32)
    (map : FieldMap) : Prop :=
  if target = source then map = c.snapshot.map
  else
    ∃ (record : MapRecord) (a b : σ), Yields (loadMap c.layout target).run a (.ok record) b ∧
      map = FieldMap.ofRecord target record c.snapshot.tables.tilesets c.switches

/-- The player is stranded: the map scene on screen is that of before, and the player is on the
target all the same, since its scene could not be built. The tables are those of before, and the
host has not been told. -/
structure Stranded (σ : Type) [DataSource (StateM σ)] [BitmapLoader (StateM σ)]
    (source target : UInt32) (x y : Int) (fault : Fault) (c c' : FieldContext) : Prop where
  isMap : c.scene.isMap = true
  scene_eq : c'.scene = c.scene
  tables_eq : c'.snapshot.tables = c.snapshot.tables
  player_eq : c'.player = c.player.moveTo x y
  map_eq : ∃ map, Destination σ c source target map ∧
    c'.snapshot.map = map.centerOn x y c.config.screen
  notices_eq : c'.notices = c.notices
  fails : ∃ (bitmaps : BitmapCache) (a b : σ),
    Yields (MapScene.build c.bitmaps c'.snapshot c'.player) a (.error fault, bitmaps) b

/-- A failed scene strands the player. -/
theorem Reaches.stranded {hooks : HookRun (Extension ε)} {c : FieldContext} {fault : Fault}
    {bitmaps : BitmapCache} {a₁ : σ} (hreach : s.Reaches target a hooks c a₁)
    (hscene : c.scene.isMap = true)
    (hbuild : Yields (MapScene.build c.bitmaps (c.placePlayer x y).snapshot
      (c.placePlayer x y).player) a₁ (.error fault, bitmaps) b) :
    Stranded σ s.context.mapId target x y fault hooks.context
      { c.placePlayer x y with bitmaps } := by
  cases hreach with
  | here _ _ htarget =>
    have hmap : Destination σ hooks.context s.context.mapId target hooks.context.snapshot.map := by
      rw [Destination, if_pos htarget]
    exact ⟨hscene, rfl, rfl, rfl, ⟨_, hmap, rfl⟩, rfl, _, _, _, hbuild⟩
  | @there record _ _ _ _ htarget hload =>
    have hmap : Destination σ hooks.context s.context.mapId target
        (hooks.context.enterMap target record).snapshot.map := by
      rw [Destination, if_neg htarget]
      exact ⟨record, _, _, hload, rfl⟩
    exact ⟨hscene, rfl, rfl, rfl, ⟨_, hmap, rfl⟩, rfl, _, _, _, hbuild⟩

/-- A player that is stranded on the live map is on the one on screen. -/
theorem Stranded.showsLiveMap {source : UInt32} {fault : Fault} {c c' : FieldContext}
    (h : Stranded σ source target x y fault c c') (hshows : c.ShowsLiveMap)
    (htarget : target = source) : c'.ShowsLiveMap := by
  obtain ⟨map, hmap, hcentered⟩ := h.map_eq
  rw [Destination, if_pos htarget] at hmap
  intro scene hscene
  rw [FieldContext.mapId, hcentered, hmap]
  exact hshows scene (h.scene_eq ▸ hscene)

/-- **What a failed transfer leaves.** The world is as the transfer hooks have left it, unless the
player is stranded; and as it was before if the hooks of the host's plugins leave it alone, which
those of a session's own plugins do. So a map on screen is still the live map, except for a player
who is stranded on another map. -/
theorem failed_transfer {fault : Fault}
    (h : Yields (s.transfer target x y) a (.error fault, s') b) :
    ∃ hooks a₁,
      Yields (Plugin.transferAll s.plugins s.context.mapId target s.context) a hooks a₁ ∧
      ((∀ p, .custom p ∈ s.plugins → Spares σ (.custom p)) → s.context.SameWorld hooks.context) ∧
      (hooks.context.SameWorld s'.context ∨
        Stranded σ s.context.mapId target x y fault hooks.context s'.context) ∧
      (hooks.context.ShowsLiveMap → s'.context.ShowsLiveMap ∨
        target ≠ s.context.mapId ∧
          Stranded σ s.context.mapId target x y fault hooks.context s'.context) := by
  have hspares : ∀ {hooks a₁},
      Yields (Plugin.transferAll s.plugins s.context.mapId target s.context) a hooks a₁ →
      (∀ p, .custom p ∈ s.plugins → Spares σ (.custom p)) →
        s.context.SameWorld hooks.context := by
    intro hooks a₁ hhooks hcustom
    refine runAll_sameWorld (fun plugin hplugin => ?_) hhooks
    cases plugin with
    | custom p => exact hcustom p hplugin
    | reload | overlay => exact spares_own (by simp)
  cases transfer_exits h with
  | refused hhooks =>
    exact ⟨_, _, hhooks, hspares hhooks, .inl (.refl _), .inl⟩
  | unreadable hhooks =>
    exact ⟨_, _, hhooks, hspares hhooks, .inl (.refl _), .inl⟩
  | sceneFailed hreach hscene hbuild =>
    have hstranded := hreach.stranded hscene hbuild
    obtain ⟨a₂, hhooks⟩ := hreach.hooks_run
    refine ⟨_, _, hhooks, hspares hhooks, .inr hstranded, fun hshows => ?_⟩
    by_cases htarget : target = s.context.mapId
    · exact .inl (hstranded.showsLiveMap hshows htarget)
    · exact .inr ⟨htarget, hstranded⟩

end

/-- The surroundings of a data set with one map besides the live one. The bitmap of its tileset
cannot be loaded. -/
private structure HallFiles where

/-- The file of the other map. -/
private def cavePath : FilePath := ⟨"cave"⟩

/-- The text of the other map. -/
private def caveBytes : Bytes :=
  "\x7b\"tileset_id\":2,\"width\":4,\"height\":4\x7d".toUTF8.toList

/-- The record that the text stands for. -/
private def caveRecord : MapRecord := { tileset := 2, width := 4, height := 4 }

private instance : DataSource (StateM HallFiles) where
  read path := return if path = cavePath then .ok caveBytes else .error (.reported "no such file")
  modified _ := return .ok { seconds := 0 }
  observe _ := return false
  noticed := return true
  pause _ := return ()

private instance : BitmapLoader (StateM HallFiles) where
  load _ file _ :=
    return if file = "cave" then .error (.reported "no such bitmap")
      else .ok { width := 32, height := 32, source := file }

/-- A session with the live map and the overlay on screen and the player in the map's corner. -/
private def hallSession : Session Empty :=
  { context :=
      { layout :=
          { tablePath := fun _ => ⟨"table"⟩
            mapPath := fun map => if map = 2 then cavePath else ⟨"absent"⟩, watchRoot := none }
        snapshot :=
          { map := { id := 1, tileset := { id := 1, graphic := "hall" } }
            tables := { tilesets := [{ id := 2, graphic := "cave" }] } }
        scene := .map { map := 1, tileset := .placeholder, characters := [] } }
    plugins := [.reload (ownWatcher {}), .overlay { ownOverlay {} with enabled := true }]
    interpreter := .ofConfig 0 {} }

/-- The session when the transfer hooks have hidden the overlay. -/
private def darkSession : Session Empty :=
  { hallSession with
    context := hallSession.context.notify .overlayHidden
    plugins := [.reload (ownWatcher {}), .overlay (ownOverlay {})] }

/-- A transfer to a map without a file leaves the world as it is: nobody is stranded, since the
player has not moved. -/
theorem failed_transfer_absent :
    Yields (hallSession.transfer 5 3 1) (⟨⟩ : HallFiles)
      (.error (.corrupt mapLabel ⟨"absent"⟩ (.reported "no such file")), darkSession) ⟨⟩ ∧
    hallSession.context.SameWorld darkSession.context := by
  have htransfer : Yields (hallSession.transfer 5 3 1) (⟨⟩ : HallFiles)
      (.error (.corrupt mapLabel ⟨"absent"⟩ (.reported "no such file")), darkSession) ⟨⟩ := by
    unfold Yields
    cbv
  obtain ⟨hooks, a₁, -, hsame, hworld | hstranded, -⟩ := failed_transfer htransfer
  · exact ⟨htransfer, (hsame fun p => p.elim).trans hworld⟩
  · have hplayer := hstranded.player_eq
    rw [(hsame fun p => p.elim).player_eq] at hplayer
    exact absurd hplayer (by decide)

set_option maxRecDepth 4000 in
/-- The other map is read as its record. -/
private theorem loadMap_cave :
    Yields (loadMap darkSession.context.layout 2 : Reading (StateM HallFiles) MapRecord).run ⟨⟩
      (.ok caveRecord) ⟨⟩ := by
  have hread : Json.read MapRecord.shape caveBytes = .ok caveRecord := by cbv
  show Yields (pure (decodeMap cavePath caveBytes)) _ _ _
  rw [decodeMap, hread]
  exact yields_pure.mpr ⟨rfl, rfl⟩

/-- The session after a transfer to the other map. -/
private def strandedSession : Session Empty :=
  { darkSession with context := (darkSession.context.enterMap 2 caveRecord).placePlayer 3 1 }

/-- A transfer to the other map fails when its scene is built, and leaves the player on that map
with the old one on screen. -/
theorem failed_transfer_strands :
    Yields (hallSession.transfer 2 3 1) (⟨⟩ : HallFiles)
      (.error (.during (.drawTileset "cave" 2) (.reported "no such bitmap")), strandedSession) ⟨⟩ ∧
    ¬ hallSession.context.SameWorld strandedSession.context ∧
    strandedSession.context.mapId ≠ hallSession.context.mapId ∧
    hallSession.context.ShowsLiveMap ∧ ¬ strandedSession.context.ShowsLiveMap := by
  have hhooks : Yields (Plugin.transferAll hallSession.plugins 1 2 hallSession.context)
      (⟨⟩ : HallFiles) { plugins := darkSession.plugins, context := darkSession.context } ⟨⟩ := by
    unfold Yields
    cbv
  have hscene : Yields (strandedSession.setScene .map) (⟨⟩ : HallFiles)
      (.error (.during (.drawTileset "cave" 2) (.reported "no such bitmap")), strandedSession)
      ⟨⟩ := by
    unfold Yields
    cbv
  refine ⟨?_, fun hsame => ?_, by decide, fun scene hscene => ?_, fun hshows => ?_⟩
  · refine yields_bind.mpr ⟨_, ⟨⟩, hhooks, yields_bind.mpr ⟨_, ⟨⟩, loadMap_cave, ?_⟩⟩
    exact yields_bind.mpr ⟨_, ⟨⟩, hscene, yields_pure.mpr ⟨rfl, rfl⟩⟩
  · exact absurd hsame.player_eq (by decide)
  · cases hscene
    rfl
  · exact absurd (hshows _ rfl) (by decide)

end Session

end Overworld
