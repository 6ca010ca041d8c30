import Mathlib
import Overworld.Proofs.Data.SettledFiles
import Overworld.Proofs.Reload.Exits
import Overworld.Session.Run

/-!
# The last save

A watcher that polls compares the marker's time with the one that the running data go with. It takes
that time before it loads anything. So data that are loaded while the editor is at work never go
with the time of its last save, and no fault on the way makes the watcher give up that time: after
the last save, the next tick with the map on screen brings what the save has left in the files into
the session, if it is not there yet.
-/

namespace Overworld

open Relation

/-- The loader answers every request. -/
def BitmapLoader.NeverFails (σ : Type) [BitmapLoader (StateM σ)] : Prop :=
  ∀ {folder file : String} {hue : Nat} {answer : Except Fault Bitmap} {s s' : σ},
    Yields (BitmapLoader.load folder file hue) s answer s' → ∃ bitmap, answer = .ok bitmap

section

variable {σ : Type} [BitmapLoader (StateM σ)]

/-- With a loader that never fails, no request fails. -/
theorem BitmapCache.load_ok (hloader : BitmapLoader.NeverFails σ) {cache cache' : BitmapCache}
    {folder file : String} {hue : Int} {answer : Except Fault Bitmap} {s s' : σ}
    (h : Yields (cache.load folder file hue) s (answer, cache') s') :
    ∃ bitmap, answer = .ok bitmap := by
  unfold load at h
  split at h
  · exact ⟨_, (yields_pair.mp h).1⟩
  · split at h
    · exact ⟨_, (yields_pair.mp h).1⟩
    · obtain ⟨loaded, s₁, hload, h⟩ := yields_bind.mp h
      obtain ⟨bitmap, rfl⟩ := hloader hload
      exact ⟨bitmap, (yields_pair.mp h).1⟩

/-- With a loader that never fails, all characters of a scene are loaded. -/
theorem loadSprites_ok (hloader : BitmapLoader.NeverFails σ) {needs : List Need}
    {cache cache' : BitmapCache} {answer : Except Fault (List Sprite)} {s s' : σ}
    (h : Yields (loadSprites cache needs) s (answer, cache') s') :
    ∃ sprites, answer = .ok sprites := by
  induction needs generalizing cache cache' answer s s' with
  | nil => exact ⟨_, (yields_pair.mp h).1⟩
  | cons need rest ih =>
    simp only [loadSprites, yields_bind] at h
    obtain ⟨⟨loaded, cache₁⟩, s₁, hload, h⟩ := h
    obtain ⟨bitmap, rfl⟩ := BitmapCache.load_ok hloader hload
    obtain ⟨⟨others, cache₂⟩, s₂, hrest, h⟩ := yields_bind.mp h
    obtain ⟨sprites, rfl⟩ := ih hrest
    exact ⟨_, (yields_pair.mp h).1⟩

/-- With a loader that never fails, every scene can be built. -/
theorem MapScene.build_ok (hloader : BitmapLoader.NeverFails σ) {cache cache' : BitmapCache}
    {snapshot : Snapshot} {player : Player} {answer : Except Fault MapScene} {s s' : σ}
    (h : Yields (MapScene.build cache snapshot player) s (answer, cache') s') :
    ∃ scene, answer = .ok scene := by
  simp only [build, yields_bind] at h
  obtain ⟨⟨loaded, cache₁⟩, s₁, hload, h⟩ := h
  obtain ⟨bitmap, rfl⟩ := BitmapCache.load_ok hloader hload
  obtain ⟨⟨characters, cache₂⟩, s₂, hsprites, h⟩ := yields_bind.mp h
  obtain ⟨sprites, rfl⟩ := loadSprites_ok hloader hsprites
  exact ⟨_, (yields_pair.mp h).1⟩

end

/-- A loaded snapshot has the map that was asked for. -/
theorem Snapshot.load_mapId {σ : Type} [DataSource (StateM σ)] {layout : DataLayout} {map : UInt32}
    {switches : SelfSwitches} {snapshot : Snapshot} {s s' : σ}
    (h : Yields (Snapshot.load layout map switches).run s (.ok snapshot) s') :
    snapshot.map.id = map := by
  obtain ⟨tables, ⟨rfl, rfl⟩ | ⟨record, rfl⟩⟩ := Snapshot.load_ok h
  · rfl
  · rfl

/-- A watcher at work, with the context that is lent to it and the surroundings. -/
structure Watch (σ : Type) where
  watcher : ReloadWatcher
  context : FieldContext
  surroundings : σ

namespace ReloadWatcher

variable {σ : Type} [DataSource (StateM σ)] [BitmapLoader (StateM σ)] {ch : Chronicle σ}

/-- The watcher has been armed: its baseline is the time that the marker had when the running data
began to be loaded. A time that has failed, if there is one, is no later one. -/
inductive Armed {layout : DataLayout} {map : UInt32} {marker : TableKind}
    (save : ch.LastSave layout map marker) (w : ReloadWatcher) (c : FieldContext) : Prop
  | intro {instant : Nat} {baseline : Stamp} {switches : SelfSwitches} {snapshot : Snapshot}
      {s s' : σ} (hload : Yields (Snapshot.load layout map switches).run s (.ok snapshot) s')
      (hdata : c.snapshot.definition = snapshot.definition) (hinstant : instant ≤ ch.clock s)
      (hstamped : save.stamped instant = some baseline) (hbaseline : w.baseline = some baseline)
      (hfailed : ∀ failed, w.failed = some failed →
        ∃ earlier ≤ ch.clock s, save.stamped earlier = some failed)

/-- What can happen to a watcher at work. Either it takes a tick, or the host and the editor do
anything else that leaves the layout and what the session has from the files alone. -/
inductive Goes (ch : Chronicle σ) : Watch σ → Watch σ → Prop
  | ticked {w : ReloadWatcher} {c : FieldContext} {t : ReloadTick} {s s' : σ}
      (htick : Yields (w.tick c) s t s') : Goes ch ⟨w, c, s⟩ ⟨t.watcher, t.context, s'⟩
  | passed {w : ReloadWatcher} {c c' : FieldContext} {s s' : σ} (hlayout : c'.layout = c.layout)
      (hdata : c'.snapshot.definition = c.snapshot.definition) (hclock : ch.clock s ≤ ch.clock s') :
      Goes ch ⟨w, c, s⟩ ⟨w, c', s'⟩

section

variable {w : ReloadWatcher} {c : FieldContext} {marker : TableKind}
  (save : ch.LastSave c.layout c.mapId marker)

/-- After the last save every check of the data set gives the same. -/
theorem checkpoint_settled (w : ReloadWatcher) : ∃ print : Option Fingerprint,
    ∀ {answer : Except Fault (Option Fingerprint)} {s s' : σ}, save.stop ≤ ch.clock s →
      Yields (w.checkpoint c) s answer s' → answer = .ok print ∧ save.stop ≤ ch.clock s' := by
  unfold checkpoint
  split
  · obtain ⟨print, hprint⟩ := save.firm_fingerprint
    refine ⟨some print, fun hstop h => ?_⟩
    simp only [yields_bind, yields_pure] at h
    obtain ⟨answer, s₁, hanswer, rfl, rfl⟩ := h
    obtain ⟨rfl, hstop'⟩ := hprint _ _ _ hstop hanswer
    exact ⟨rfl, hstop'⟩
  · refine ⟨none, fun hstop h => ?_⟩
    obtain ⟨rfl, rfl⟩ := yields_pure.mp h
    exact ⟨rfl, hstop⟩

variable {save}

/-- A reload that starts after the last save commits what that save has left in the files. -/
theorem Reloads.commits_last (hloader : BitmapLoader.NeverFails σ)
    (hgood : ∀ part ∈ dataParts c.mapId, ¬ part.Bad c.layout save.files.answer)
    {seen : Stamp} {t : ReloadTick} {s s' : σ} (hstop : save.stop ≤ ch.clock s)
    (h : w.Reloads c seen s t s') :
    t.result = .ok .committed ∧ t.context.snapshot.Held c.layout save.files.answer c.mapId := by
  obtain ⟨print, hcheck⟩ := w.checkpoint_settled save
  have hpaused {s₁ : σ} (hpause : Yields (DataSource.pause w.config.graceMs) s () s₁) :
      save.stop ≤ ch.clock s₁ := Nat.le_trans hstop (ch.pause_forward _ _ _ _ hpause)
  have hloads {first : Option Fingerprint} {loaded : Except Fault Snapshot} {s₁ : σ}
      (hload : w.LoadsSnapshot c s first loaded s₁) : save.stop ≤ ch.clock s₁ ∧ first = print ∧
        ∃ snapshot, loaded = .ok snapshot ∧ snapshot.Held c.layout save.files.answer c.mapId := by
    obtain ⟨hpause, hbefore, hload⟩ := hload
    obtain ⟨hfirst, hstop'⟩ := hcheck (hpaused hpause) hbefore
    obtain ⟨hstop₁, hheld⟩ := save.load_held hgood hstop' hload
    exact ⟨hstop₁, Except.ok.inj hfirst, hheld⟩
  cases h with
  | unreadableBefore hpause hbefore => cases (hcheck (hpaused hpause) hbefore).1
  | loadFailed hload =>
    obtain ⟨-, -, snapshot, hloaded, -⟩ := hloads hload
    cases hloaded
  | unreadableAfter hload hafter => cases (hcheck (hloads hload).1 hafter).1
  | moved hload hafter hmoved =>
    obtain ⟨hstop₁, rfl, -⟩ := hloads hload
    exact absurd (Except.ok.inj (hcheck hstop₁ hafter).1) hmoved
  | sceneFailed hconfirm hscene =>
    obtain ⟨scene, hbuilt⟩ := MapScene.build_ok hloader hscene
    cases hbuilt
  | committed hconfirm hscene =>
    obtain ⟨hload, -⟩ := hconfirm
    obtain ⟨-, -, snapshot, hloaded, hheld⟩ := hloads hload
    cases hloaded
    -- The map is scrolled before it is put in place, and no file says how far.
    exact ⟨rfl, hheld.congr rfl⟩

end

section

variable {layout : DataLayout} {map : UInt32} {marker : TableKind}
  {save : ch.LastSave layout map marker} {w : ReloadWatcher} {c : FieldContext}

/-- The watcher is on guard: if it takes the time of the last save for settled, because it is the
baseline or has failed, then what that save has left in the files is running. -/
structure OnGuard (save : ch.LastSave layout map marker) (w : ReloadWatcher) (c : FieldContext) :
    Prop where
  enabled : w.config.enabled = true
  polls : w.probe = .poll
  marker_eq : w.marker = marker
  layout_eq : c.layout = layout
  mapId_eq : c.mapId = map
  armed : w.baseline ≠ none
  settled : w.baseline = some save.last ∨ w.failed = some save.last →
    c.snapshot.Held layout save.files.answer map

/-- An armed watcher is on guard. -/
theorem Armed.onGuard (save : ch.LastSave c.layout c.mapId w.marker)
    (hgood : ∀ part ∈ dataParts c.mapId, ¬ part.Bad c.layout save.files.answer)
    (henabled : w.config.enabled = true) (hpolls : w.probe = .poll) (h : w.Armed save c) :
    w.OnGuard save c := by
  obtain @⟨_, _, _, loaded, s, _, hload, hdata, hinstant, hstamped, hbaseline, hfailed⟩ := h
  -- A time that the marker had before the load is that of the last save only after the save.
  have hlast {instant : Nat} (hinstant : instant ≤ ch.clock s)
      (hstamped : save.stamped instant = some save.last) : save.stop ≤ ch.clock s := by
    by_contra hearly
    exact save.stamped_fresh (by omega) hstamped
  refine ⟨henabled, hpolls, rfl, rfl, rfl, by rw [hbaseline]; exact Option.some_ne_none _, ?_⟩
  intro hsettled
  have hstop : save.stop ≤ ch.clock s := by
    rcases hsettled with hsettled | hsettled
    · rw [hbaseline] at hsettled
      exact hlast hinstant (hsettled ▸ hstamped)
    · obtain ⟨earlier, hearlier, hstamped⟩ := hfailed _ hsettled
      exact hlast hearlier hstamped
  obtain ⟨-, snapshot, hloaded, hheld⟩ := save.load_held hgood hstop hload
  cases hloaded
  exact hheld.congr hdata

/-- A reload leaves a watcher on guard, if it brings what the last save has left in case that it has
seen the time of that save. -/
theorem OnGuard.reload {seen : Stamp} {t : ReloadTick} {s s' : σ} (hguard : w.OnGuard save c)
    (h : w.Reloads c seen s t s')
    (hseen : seen = save.last → t.context.snapshot.Held layout save.files.answer map) :
    t.watcher.OnGuard save t.context := by
  cases h with
  | unreadableBefore | unreadableAfter | moved => exact { hguard with }
  | loadFailed | sceneFailed =>
    refine { hguard with settled := ?_ }
    rintro (hbaseline | hfailed)
    · exact hguard.settled (.inl hbaseline)
    · exact hseen (Option.some.inj hfailed)
  | committed hconfirm hscene =>
    obtain ⟨⟨-, -, hload⟩, -⟩ := hconfirm
    refine { hguard with mapId_eq := ?_, armed := Option.some_ne_none _, settled := ?_ }
    · exact (Snapshot.load_mapId hload).trans hguard.mapId_eq
    · rintro (hbaseline | hfailed)
      · exact hseen (Option.some.inj hbaseline)
      · cases hfailed

/-- A tick leaves a watcher on guard, however it ends. -/
theorem OnGuard.tick {t : ReloadTick} {s s' : σ} (hguard : w.OnGuard save c)
    (hloader : BitmapLoader.NeverFails σ)
    (hgood : ∀ part ∈ dataParts map, ¬ part.Bad layout save.files.answer)
    (h : Yields (w.tick c) s t s') : t.watcher.OnGuard save t.context := by
  obtain rfl := hguard.layout_eq
  obtain rfl := hguard.mapId_eq
  obtain rfl := hguard.marker_eq
  cases tick_exits h with
  | rest hrest =>
    cases hrest with
    | armed _ hbare => exact absurd hbare hguard.armed
    | disabled | unasked | unstatted | settled | deferred => exact { hguard with }
  | reload hlook _ _ hreload =>
    obtain ⟨-, -, -, hstat⟩ := hlook
    have hreloading : { w with phase := .reloading }.OnGuard save c := { hguard with }
    have hguard' := hreloading.reload hreload fun hseen =>
      (hreload.commits_last hloader hgood ((save.modified_eq_last hstat).2 hseen)).2
    exact { hguard' with }

/-- Whatever happens leaves a watcher on guard. -/
theorem OnGuard.run {x y : Watch σ} (hloader : BitmapLoader.NeverFails σ)
    (hgood : ∀ part ∈ dataParts map, ¬ part.Bad layout save.files.answer)
    (hrun : ReflTransGen (Goes ch) x y) (hguard : x.watcher.OnGuard save x.context) :
    y.watcher.OnGuard save y.context := by
  induction hrun with
  | refl => exact hguard
  | tail _ hstep ih =>
    cases hstep with
    | ticked htick => exact ih.tick hloader hgood htick
    | passed hlayout hdata _ =>
      refine { ih with layout_eq := ?_, mapId_eq := ?_, settled := ?_ }
      · exact hlayout.trans ih.layout_eq
      · exact (congrArg (fun s : Snapshot => s.map.id) hdata).trans ih.mapId_eq
      · exact fun hsettled => (ih.settled hsettled).congr hdata

/-- After the last save a watcher on guard has what that save has left in the files running when it
has taken a tick with the map on screen. -/
theorem OnGuard.tick_settled {t : ReloadTick} {s s' : σ} (hguard : w.OnGuard save c)
    (hloader : BitmapLoader.NeverFails σ)
    (hgood : ∀ part ∈ dataParts map, ¬ part.Bad layout save.files.answer)
    (hstop : save.stop ≤ ch.clock s) (hscene : c.scene.isMap = true)
    (h : Yields (w.tick c) s t s') :
    (t.result = .ok .unchanged ∨ t.result = .ok .committed) ∧
      t.context.snapshot.Held layout save.files.answer map := by
  obtain rfl := hguard.layout_eq
  obtain rfl := hguard.mapId_eq
  obtain rfl := hguard.marker_eq
  have hpolled {asked : Bool} {s₁ : σ} (h : Yields w.probe.shouldLook s asked s₁) :
      asked = true ∧ s₁ = s := by
    rw [hguard.polls] at h
    exact yields_pure.mp h
  have hlooked {answer : Except Fault Stamp} {s₁ : σ} (hlook : w.Looks c s answer s₁) :
      answer = .ok save.last ∧ save.stop ≤ ch.clock s₁ := by
    obtain ⟨-, hprobe, -, hstat⟩ := hlook
    obtain ⟨-, rfl⟩ := hpolled hprobe
    obtain ⟨seen, rfl⟩ := save.modified_settled hstop hstat
    have hseen := (save.modified_eq_last hstat).1 hstop
    exact ⟨congrArg Except.ok hseen, (save.modified_eq_last hstat).2 hseen⟩
  cases tick_exits h with
  | rest hrest =>
    cases hrest with
    | disabled hdisabled => cases hdisabled.symm.trans hguard.enabled
    | unasked hprobe => cases (hpolled hprobe).1
    | unstatted hlook => cases (hlooked hlook).1
    | armed _ hbare => exact absurd hbare hguard.armed
    | settled hlook hbaseline hseen =>
      obtain ⟨hlast, -⟩ := hlooked hlook
      cases hlast
      refine ⟨.inl rfl, hguard.settled (hseen.imp ?_ Eq.symm)⟩
      rintro rfl
      exact hbaseline
    | deferred _ _ hother => cases hother.symm.trans hscene
  | reload hlook _ _ hreload =>
    obtain ⟨hcommitted, hheld⟩ := hreload.commits_last hloader hgood (hlooked hlook).2
    exact ⟨.inr hcommitted, hheld⟩

/-- **No save is lost.** A watcher that polls is armed with the time that the marker had when the
running data were loaded. Then it takes any ticks, with any results, while the editor writes to the
files whenever it likes and the host does anything but a transfer. If the bitmap loader never fails
and nothing is wrong with the files of the last save, then after that save the first tick with the
map on screen ends without a fault, and the tables that run are those that these files hold, and the
map has the sides, the tiles, the tileset and the events that its file defines. -/
theorem no_save_lost {w₀ : ReloadWatcher} {c₀ : FieldContext} {s₀ : σ} {t : ReloadTick} {s s' : σ}
    (save : ch.LastSave c₀.layout c₀.mapId w₀.marker) (hloader : BitmapLoader.NeverFails σ)
    (hgood : ∀ part ∈ dataParts c₀.mapId, ¬ part.Bad c₀.layout save.files.answer)
    (henabled : w₀.config.enabled = true) (hpolls : w₀.probe = .poll) (harmed : w₀.Armed save c₀)
    (hrun : ReflTransGen (Goes ch) ⟨w₀, c₀, s₀⟩ ⟨w, c, s⟩) (hstop : save.stop ≤ ch.clock s)
    (hscene : c.scene.isMap = true) (htick : Yields (w.tick c) s t s') :
    (t.result = .ok .unchanged ∨ t.result = .ok .committed) ∧
      t.context.snapshot.Held c₀.layout save.files.answer c₀.mapId := by
  have hguard := harmed.onGuard save hgood henabled hpolls
  have hguard' : w.OnGuard save c := hguard.run hloader hgood hrun
  exact hguard'.tick_settled hloader hgood hstop hscene htick

end

end ReloadWatcher

/-- The surroundings of a data set that is saved while it is loaded: the table of items is written
at instant 10, the table of actors and map 7 at instant 20, and the marker is given a time at the
instants 5 and 22. Every question takes an instant. -/
private structure Saving where
  now : Nat

/-- Where the files of the data set are. -/
private def savingLayout : DataLayout :=
  { tablePath := fun kind => ⟨kind.fileName⟩, mapPath := fun map => ⟨mapFileName map⟩
    watchRoot := none }

/-- What a file holds at an instant. Map 7 has a single tile, and later two tiles and a gate. -/
private def saved (now : Nat) (path : FilePath) : Bytes :=
  if path = savingLayout.mapPath 7 then
    if 20 ≤ now then "[3,2,1,[5,6],[[1,\"gate\",1]]]".toUTF8.toList else "[0,1,1]".toUTF8.toList
  else if path = savingLayout.tablePath .tilesets then "[[3,\"Harbour\"]]".toUTF8.toList
  else if path = savingLayout.tablePath .actors ∧ 20 ≤ now ∨
      path = savingLayout.tablePath .items ∧ 10 ≤ now then "[7]".toUTF8.toList
  else "[]".toUTF8.toList

/-- The time of the marker at an instant. -/
private def savedAt (now : Nat) : Stamp :=
  { seconds := if now < 5 then 0 else if now < 22 then 1 else 2 }

private instance : DataSource (StateM Saving) where
  read path := modifyGet fun s => (.ok (saved s.now path), ⟨s.now + 1⟩)
  modified _ := modifyGet fun s => (.ok (savedAt s.now), ⟨s.now + 1⟩)
  observe _ := return false
  noticed := return true
  pause _ := modify fun s => ⟨s.now + 1⟩

private instance : BitmapLoader (StateM Saving) := .blank

/-- What the files hold in the course of time. -/
private def savingChronicle : Chronicle Saving where
  clock s := s.now
  holds now path := some (saved now path)
  length_lt := by
    rintro instant path _ ⟨⟩
    unfold saved
    split_ifs <;> decide +kernel
  read_at := by
    rintro path bytes s s' h
    obtain ⟨hbytes, hs'⟩ := Prod.mk.inj h
    exact ⟨s.now, Nat.le_refl _, hs' ▸ Nat.le_succ _, congrArg some (Except.ok.inj hbytes)⟩
  modified_forward path s a s' h := (Prod.mk.inj h).2 ▸ Nat.le_succ _
  noticed_forward := forward_pure _
  pause_forward ms s a s' h := (Prod.mk.inj h).2 ▸ Nat.le_succ _
  load_forward _ _ _ := forward_pure _

/-- A watcher without confirmation that goes with the first time of the marker. -/
private def savingWatcher : ReloadWatcher :=
  { config := { confirmFingerprint := false }, marker := .actors, baseline := some { seconds := 0 } }

/-- What is loaded before the first save. -/
private def firstSnapshot : Snapshot :=
  { tables := { tilesets := [{ id := 3, name := "Harbour" }] }
    map := .ofRecord 7 { width := 1, height := 1 } [] {} }

/-- A session with map 7 on screen. -/
private def savingContext : FieldContext :=
  { layout := savingLayout, snapshot := firstSnapshot, player := { character := "" }
    scene := .map { map := 7, tileset := .placeholder, characters := [] } }

/-- The last save is over at instant 22. -/
private def lastSaving :
    savingChronicle.LastSave savingContext.layout savingContext.mapId savingWatcher.marker where
  stop := 22
  last := { seconds := 2 }
  stamped now := some (savedAt now)
  stamped_last h := by
    rw [savedAt, if_neg (by omega), if_neg (by omega)]
  stamped_fresh h := by
    simp only [savedAt, ne_eq, Option.some.injEq, Stamp.mk.injEq]
    split_ifs <;> simp
  modified_at := by
    rintro seen s s' h
    obtain ⟨hseen, hs'⟩ := Prod.mk.inj h
    exact ⟨s.now, Nat.le_refl _, hs' ▸ Nat.le_succ _, congrArg some (Except.ok.inj hseen)⟩
  modified_settled _ h := ⟨_, (Prod.mk.inj h).1.symm⟩
  holds_settled {path} _ := by
    refine ⟨saved 22 path, fun instant hinstant => ?_⟩
    simp only [savingChronicle, saved, show 10 ≤ instant by omega, show 20 ≤ instant by omega,
      show 10 ≤ 22 by omega, show 20 ≤ 22 by omega]
  read_settled _ _ h := ⟨_, (Prod.mk.inj h).1.symm⟩

/-- The tables that the last save leaves. -/
private def lastTables : DataTables :=
  { actors := [.int 7], items := [.int 7], tilesets := [{ id := 3, name := "Harbour" }] }

/-- The map that the last save leaves. -/
private def lastMap : MapRecord :=
  { tileset := 3, width := 2, height := 1, tiles := [5, 6]
    events := [{ id := 1, name := "gate", x := 1 }] }

/-- The tables are in their files after the last save. -/
private theorem lastTables_held : lastTables.Held savingContext.layout lastSaving.files.answer where
  actors := ⟨_, rfl, Json.read_list_eq_ok.mp (by cbv)⟩
  items := ⟨_, rfl, Json.read_list_eq_ok.mp (by cbv)⟩
  armors := ⟨_, rfl, Json.read_list_eq_ok.mp (by cbv)⟩
  animations := ⟨_, rfl, Json.read_list_eq_ok.mp (by cbv)⟩
  tilesets := ⟨_, rfl, Json.read_list_eq_ok.mp (by cbv)⟩
  commonEvents := ⟨_, rfl, Json.read_list_eq_ok.mp (by cbv)⟩

/-- The map is in its file after the last save. -/
private theorem lastMap_held :
    MapHeld savingContext.layout lastSaving.files.answer savingContext.mapId lastMap :=
  ⟨_, rfl, by cbv, by decide, by decide⟩

/-- The tick that starts at instant 7, and the surroundings that it leaves. -/
private def tornTick : ReloadTick × Saving :=
  ((savingWatcher.tick savingContext : StateM Saving ReloadTick).run ⟨7⟩).run

/-- That tick finds the new items, but the old actors and the old map, and commits them. -/
private theorem tornTick_commits :
    tornTick.1.result = .ok .committed ∧ tornTick.1.context.snapshot.tables.items = [.int 7] ∧
      tornTick.1.context.snapshot.tables.actors = [] ∧
      tornTick.1.context.snapshot.map.width = 1 ∧ tornTick.1.context.scene.isMap = true ∧
      tornTick.2.now = 16 := by
  cbv
  exact ⟨rfl, trivial⟩

namespace ReloadWatcher

/-- A tick looks at the marker before the last save. It finds the new items, but the old actors and
the old map, and commits them. The first tick after that save brings in the rest. -/
theorem torn_tick_caught_up :
    BitmapLoader.NeverFails Saving ∧ savingWatcher.Armed lastSaving savingContext ∧
      (∀ part ∈ dataParts savingContext.mapId,
        ¬ part.Bad savingContext.layout lastSaving.files.answer) ∧
      tornTick.1.result = .ok .committed ∧ tornTick.1.context.snapshot.tables.items = [.int 7] ∧
      tornTick.1.context.snapshot.tables.actors = [] ∧
      tornTick.1.context.snapshot.map.width = 1 ∧
      ∃ t s', Yields (tornTick.1.watcher.tick tornTick.1.context) (⟨22⟩ : Saving) t s' ∧
        (t.result = .ok .unchanged ∨ t.result = .ok .committed) ∧
        t.context.snapshot.tables = lastTables ∧ t.context.snapshot.map.width = 2 ∧
        t.context.snapshot.map.ground.get? 1 0 0 = some 6 ∧
        t.context.snapshot.map.tileset.name = "Harbour" ∧
        ∃ e, t.context.snapshot.map.events.get? 1 = some e ∧ e.name = "gate" ∧ e.x = 1 := by
  have hfirst : Yields (Snapshot.load savingContext.layout savingContext.mapId {}).run
      (⟨0⟩ : Saving) (.ok firstSnapshot) ⟨7⟩ := by
    unfold Yields
    cbv
  have hloader : BitmapLoader.NeverFails Saving := fun h => ⟨_, (yields_pure.mp h).1⟩
  have harmed : savingWatcher.Armed lastSaving savingContext :=
    .intro hfirst rfl (Nat.zero_le _) rfl rfl (fun _ h => by cases h)
  have hgood := lastTables_held.good lastMap_held
  have htorn : Yields (savingWatcher.tick savingContext) (⟨7⟩ : Saving) tornTick.1 tornTick.2 := rfl
  obtain ⟨hcommitted, hitems, hactors, hwidth, hscene, hnow⟩ := tornTick_commits
  have hclock : savingChronicle.clock tornTick.2 ≤ savingChronicle.clock ⟨22⟩ := by
    show tornTick.2.now ≤ 22
    omega
  have hrun : ReflTransGen (Goes savingChronicle) ⟨savingWatcher, savingContext, ⟨7⟩⟩
      ⟨tornTick.1.watcher, tornTick.1.context, ⟨22⟩⟩ :=
    .tail (.single (.ticked htorn)) (.passed rfl rfl hclock)
  refine ⟨hloader, harmed, hgood, hcommitted, hitems, hactors, hwidth, _, _, yields_run .., ?_⟩
  obtain ⟨hresult, hheld⟩ := no_save_lost lastSaving hloader hgood rfl rfl harmed hrun
    (Nat.le_refl 22) hscene (yields_run ..)
  have htables := hheld.tables.unique lastTables_held
  obtain ⟨record, hrecord, hdefined⟩ := hheld.map (by decide)
  obtain rfl := hrecord.unique lastMap_held
  refine ⟨hresult, htables, hdefined.width_eq, ?_, ?_, ?_⟩
  · exact hdefined.tile_eq (x := 1) (y := 0) (by decide) (by decide) (by decide)
  · rw [hdefined.tileset_eq, htables]
    rfl
  · obtain ⟨gate, hgate, hrecord⟩ := hdefined.exists_event (show lastMap.event? 1 = some _ from rfl)
    exact ⟨gate, hgate, hrecord.name_eq, hrecord.x_eq⟩

end ReloadWatcher

end Overworld
