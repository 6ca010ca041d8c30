import Mathlib
import Overworld.Proofs.Data.Chronicle
import Overworld.Proofs.Reload.AllOrNothing
import Overworld.Session.Run

/-!
# Files that move during a reload

An editor can write to the files of a data set at any moment of a reload. The fingerprints taken
before and after the load cover every file that the load reads. So if they agree, and no file
returns to what it held before, nothing was written during the load, and a snapshot that is
committed is that of a single instant. If they differ, the data set is tried again in the next
tick. But the second one is only taken after a load that succeeds: a table that is half written
when it is loaded makes the watcher give up.
-/

namespace Overworld

section

variable {σ : Type} [DataSource (StateM σ)]

/-- With confirmation on, the check of a data set is its fingerprint. -/
theorem ReloadWatcher.yields_checkpoint {w : ReloadWatcher} {c : FieldContext} {s s' : σ}
    {answer : Except Fault (Option Fingerprint)} (hconfirm : w.config.confirmFingerprint = true) :
    Yields (w.checkpoint c) s answer s' ↔
      ∃ print, Yields (fingerprint c.layout c.mapId).run s print s' ∧ answer = print.map some := by
  simp only [checkpoint, if_pos hconfirm, yields_bind, yields_pure]
  constructor
  · rintro ⟨print, s₁, hprint, rfl, rfl⟩
    exact ⟨print, hprint, rfl⟩
  · rintro ⟨print, hprint, rfl⟩
    exact ⟨print, s', hprint, rfl, rfl⟩

variable [BitmapLoader (StateM σ)]

namespace Chronicle

variable (ch : Chronicle σ)

/-- No time runs backwards while a probe is asked. -/
theorem forward_shouldLook (probe : ChangeProbe) :
    Forward ch.clock (probe.shouldLook : StateM σ Bool) := by
  cases probe with
  | poll => exact forward_pure _
  | notify => exact ch.noticed_forward

/-- No time runs backwards while a watcher looks at the marker table. -/
theorem clock_le_of_looks {w : ReloadWatcher} {c : FieldContext} {answer : Except Fault Stamp}
    {s s' : σ} (h : w.Looks c s answer s') : ch.clock s ≤ ch.clock s' := by
  obtain ⟨-, hprobe, -, hstat⟩ := h
  exact Nat.le_trans (ch.forward_shouldLook _ _ _ _ hprobe) (ch.modified_forward _ _ _ _ hstat)

end Chronicle

namespace ReloadWatcher

/-- A tick that says that it has put a snapshot in place has loaded it. -/
theorem tick_commits {w : ReloadWatcher} {c : FieldContext} {t : ReloadTick} {s s' : σ}
    (htick : Yields (w.tick c) s t s') (hcommitted : t.result = .ok .committed) :
    w.Commits c s t s' := by
  cases tick_exits htick with
  | rest hrest => exact absurd hcommitted hrest.keeps.1
  | reload hlook _ _ hreload =>
    rcases hreload.keeps_or_commits hlook with ⟨hother, -⟩ | hcommits
    · exact absurd hcommitted hother
    · exact hcommits

/-- **A committed reload is never torn.** Files are written to at any moments, but return to
nothing that they held before, and no two data sets that can be read have the same fingerprint. If
a tick with confirmation on puts a snapshot in place, then nothing was written to the files of the
data set while the snapshot was loaded, and at one instant of the tick the files together held what
it was loaded from: a load that nobody disturbs from that instant on gives the same snapshot. -/
theorem tick_untorn (ch : Chronicle σ) {w : ReloadWatcher} {c : FieldContext} {t : ReloadTick}
    {s s' : σ} (hconfirm : w.config.confirmFingerprint = true)
    (hreturn : ∀ path ∈ dataFiles c.layout c.mapId, ch.NeverReturns path)
    (hcollision : Set.InjOn Fingerprint.ofBytes (dataStreams σ c.layout c.mapId))
    (htick : Yields (w.tick c) s t s') (hcommitted : t.result = .ok .committed) :
    ∃ instant snapshot s₁ s₂,
      (ch.clock s ≤ ch.clock s₁ ∧ ch.clock s₁ ≤ instant ∧ instant ≤ ch.clock s₂ ∧
        ch.clock s₂ ≤ ch.clock s') ∧
      Yields (Snapshot.load c.layout c.mapId c.switches).run s₁ (.ok snapshot) s₂ ∧
      t.context.snapshot = placed c snapshot ∧
      ch.StandStill (dataFiles c.layout c.mapId) (ch.clock s₁) (ch.clock s₂) ∧
      Yields (Snapshot.load c.layout c.mapId c.switches).run (ch.still instant) (.ok snapshot)
        (ch.still instant) := by
  obtain @⟨_, _, snapshot, _, _, s₁, s₂, s₃, s₄, s₅, _, hlook, hpause, hbefore, hload, hafter,
    hscene⟩ := tick_commits htick hcommitted
  obtain ⟨_ | before, hprint, hcheck⟩ := (yields_checkpoint hconfirm).mp hbefore
  · cases hcheck
  obtain ⟨_ | after, hprint', hcheck'⟩ := (yields_checkpoint hconfirm).mp hafter
  · cases hcheck'
  obtain rfl : before = after := Option.some.inj (Except.ok.inj (hcheck.symm.trans hcheck'))
  obtain ⟨hle₃, hle₅, hstill⟩ :=
    ch.standStill_of_fingerprints hreturn hcollision hprint hprint'
  obtain ⟨hle₄, hecho⟩ := ch.snapshot_load_echoes c.switches _ _ _ hload
  have hle₁ := ch.clock_le_of_looks hlook
  have hle₂ := ch.pause_forward _ _ _ _ hpause
  have hle := ch.forward_build _ _ _ _ _ _ hscene
  refine ⟨ch.clock s₃, snapshot, s₃, s₄, by omega, hload, rfl, hstill, ?_⟩
  exact hecho _ _ hstill (Nat.le_refl _) (Nat.le_refl _)

end ReloadWatcher

end

/-- The surroundings of a data set whose table of actors is written anew: it holds an empty list,
from the instant `start` on only the first byte of one, and from `stop` on an empty list with a
space in it. Every question takes an instant. -/
private structure Editing (start stop : Nat) where
  now : Nat

/-- Where the files of the data set are. -/
private def editingLayout : DataLayout :=
  { tablePath := fun kind => ⟨kind.fileName⟩, mapPath := fun map => ⟨mapFileName map⟩
    watchRoot := none }

/-- What the table of actors holds at an instant. -/
private def editedActors (start stop now : Nat) : Bytes :=
  if now < start then [0x5B, 0x5D] else if now < stop then [0x5B] else [0x5B, 0x20, 0x5D]

/-- What a file holds at an instant. -/
private def edited (start stop now : Nat) (path : FilePath) : Bytes :=
  if path = editingLayout.tablePath .actors then editedActors start stop now
  else [0x5B, 0x5D]

private instance {start stop : Nat} : DataSource (StateM (Editing start stop)) where
  read path := modifyGet fun s => (.ok (edited start stop s.now path), ⟨s.now + 1⟩)
  modified _ := modifyGet fun s => (.ok { seconds := 1 }, ⟨s.now + 1⟩)
  observe _ := return false
  noticed := return true
  pause _ := modify fun s => ⟨s.now + 1⟩

private instance {start stop : Nat} : BitmapLoader (StateM (Editing start stop)) := .blank

/-- What the files hold in the course of time. -/
private def editingChronicle (start stop : Nat) : Chronicle (Editing start stop) where
  clock s := s.now
  holds now path := some (edited start stop now path)
  length_lt := by
    rintro instant path _ ⟨⟩
    unfold edited editedActors
    split_ifs <;> decide
  read_at := by
    rintro path bytes s s' h
    obtain ⟨hbytes, hs'⟩ := Prod.mk.inj h
    exact ⟨s.now, Nat.le_refl _, hs' ▸ Nat.le_succ _, congrArg some (Except.ok.inj hbytes)⟩
  modified_forward path s a s' h := (Prod.mk.inj h).2 ▸ Nat.le_succ _
  noticed_forward := forward_pure _
  pause_forward ms s a s' h := (Prod.mk.inj h).2 ▸ Nat.le_succ _
  load_forward _ _ _ := forward_pure _

/-- The table of actors goes through its contents in order. -/
private theorem editing_neverReturns (start stop : Nat) (path : FilePath) :
    (editingChronicle start stop).NeverReturns path := by
  intro bytes t₁ t₂ t₃ h₁₂ h₂₃ hfirst hthird
  simp only [editingChronicle, edited, editedActors, Option.some.injEq] at hfirst hthird ⊢
  subst hfirst
  split_ifs at hthird ⊢ <;> first | rfl | omega | exact absurd hthird (by decide)

/-- A table holds an empty list, unless it is the table of actors. -/
private theorem edited_tablePath (start stop now : Nat) (kind : TableKind) :
    edited start stop now (editingLayout.tablePath kind) =
      if kind = .actors then editedActors start stop now else [0x5B, 0x5D] := by
  cases kind <;> simp [edited, editingLayout, TableKind.fileName, TableKind.label]

/-- The byte sequence of the data set with this table of actors. -/
private def editingStream (actors : Bytes) : Bytes :=
  dataSetStream (actors :: List.replicate 5 [0x5B, 0x5D]) []

/-- The data set is read in six instants. -/
private theorem yields_editingStream (start stop now : Nat) :
    Yields (dataStream editingLayout 0 : Reading (StateM (Editing start stop)) Bytes).run ⟨now⟩
      (.ok (editingStream (editedActors start stop now))) ⟨now + 6⟩ := by
  have htables : Yields (tablesStream editingLayout [] TableKind.all :
      Reading (StateM (Editing start stop)) Bytes).run ⟨now⟩
      (.ok (editingStream (editedActors start stop now))) ⟨now + 6⟩ := by
    iterate 6 refine yields_except_bind.mpr (.inl ⟨_, _, rfl, ?_⟩)
    refine yields_except_pure.mpr ⟨?_, rfl⟩
    simp [editingStream, dataSetStream, TableKind.all, edited_tablePath]
  exact yields_except_bind.mpr (.inl ⟨_, _, htables, yields_except_pure.mpr ⟨rfl, rfl⟩⟩)

/-- The data set has one fingerprint before and another one after. -/
private theorem editingStream_ne : Fingerprint.ofBytes (editingStream [0x5B, 0x20, 0x5D]) ≠
    Fingerprint.ofBytes (editingStream [0x5B, 0x5D]) := by
  decide +kernel

/-- If the table is written at a stroke, the data set has no more than these two fingerprints. -/
private theorem editing_injOn (instant : Nat) :
    Set.InjOn Fingerprint.ofBytes
      (dataStreams (Editing instant instant) editingLayout 0) := by
  have hactors (now : Nat) : editedActors instant instant now =
      if now < instant then [0x5B, 0x5D] else [0x5B, 0x20, 0x5D] := by
    unfold editedActors
    split_ifs <;> rfl
  rintro _ ⟨⟨now⟩, _, h⟩ _ ⟨⟨now'⟩, _, h'⟩ hprint
  obtain rfl := Except.ok.inj ((yields_editingStream ..).unique h).1
  obtain rfl := Except.ok.inj ((yields_editingStream ..).unique h').1
  rw [hactors, hactors] at hprint ⊢
  split_ifs at hprint ⊢
  · rfl
  · exact absurd hprint.symm editingStream_ne
  · exact absurd hprint editingStream_ne
  · rfl

/-- A watcher that has seen an earlier time of the marker. -/
private def editingWatcher : ReloadWatcher :=
  { config := {}, marker := .actors, baseline := some { seconds := 0 } }

/-- A session with map 0 on screen. -/
private def editingContext : FieldContext :=
  { layout := editingLayout, player := { character := "" }
    scene := .map { map := 0, tileset := .placeholder, characters := [] } }

namespace ReloadWatcher

/-- Every watcher that polls sees the one time of the marker. -/
private theorem looks_editing {start stop : Nat} {w : ReloadWatcher} {c : FieldContext}
    (henabled : w.config.enabled = true) (hprobe : w.probe = .poll) (now : Nat) :
    w.Looks c (⟨now⟩ : Editing start stop) (.ok { seconds := 1 }) ⟨now + 1⟩ := by
  have hlooks : Yields w.probe.shouldLook (⟨now⟩ : Editing start stop) true ⟨now⟩ :=
    hprobe ▸ yields_pure.mpr ⟨rfl, rfl⟩
  exact .intro henabled hlooks (.inl rfl) rfl

/-- That time calls for a reload. -/
private theorem callsFor_editing : editingWatcher.CallsFor { seconds := 1 } :=
  ⟨{ seconds := 0 }, rfl, by decide, by decide⟩

/-- The fingerprint of the data set is taken in six instants. -/
private theorem yields_fingerprint_editing (start stop now : Nat) :
    Yields (fingerprint editingContext.layout editingContext.mapId :
      Reading (StateM (Editing start stop)) Fingerprint).run ⟨now⟩
      (.ok (.ofBytes (editingStream (editedActors start stop now)))) ⟨now + 6⟩ :=
  fingerprint_ok.mpr ⟨_, yields_editingStream .., rfl⟩

/-- The tick of a data set that is loaded before the table of actors is written: the write falls
between the second reads of that table and of the next one. -/
private theorem editing_commits : ∃ t, Yields (editingWatcher.tick editingContext)
    (⟨0⟩ : Editing 15 15) t ⟨20⟩ ∧ t.result = .ok .committed := by
  have hcheck (now : Nat) : Yields (editingWatcher.checkpoint editingContext)
      (⟨now⟩ : Editing 15 15) _ ⟨now + 6⟩ :=
    (yields_checkpoint rfl).mpr ⟨_, yields_fingerprint_editing 15 15 now, rfl⟩
  have hload : Yields (Snapshot.load editingLayout 0 {} :
      Reading (StateM (Editing 15 15)) Snapshot).run ⟨8⟩ (.ok {}) ⟨14⟩ := by
    unfold Yields
    cbv
  have hscene : Yields (MapScene.build {} (placed editingContext {}) editingContext.player)
      (⟨20⟩ : Editing 15 15)
      (.ok { map := 0, tileset := .placeholder, characters := [] }, {}) ⟨20⟩ := by
    unfold Yields
    cbv
  have hpause : Yields (DataSource.pause 100) (⟨1⟩ : Editing 15 15) () ⟨2⟩ := rfl
  have hconfirm : { editingWatcher with phase := .reloading }.Confirms editingContext
      (⟨1⟩ : Editing 15 15) {} ⟨20⟩ :=
    .intro (.intro hpause (hcheck 2) hload) (hcheck 14)
  exact ⟨_, (looks_editing rfl rfl 0).yields_tick (callsFor_editing.yields_react rfl
    (Reloads.committed hconfirm hscene).yields_reload), rfl⟩

/-- The tick that commits before the write is over loads what the files hold at instant 8, say. -/
theorem editing_untorn : ∃ t, Yields (editingWatcher.tick editingContext)
    (⟨0⟩ : Editing 15 15) t ⟨20⟩ ∧ t.result = .ok .committed ∧
    ∃ instant snapshot, ∃ s₁ s₂ : Editing 15 15,
      ((editingChronicle 15 15).clock ⟨0⟩ ≤ (editingChronicle 15 15).clock s₁ ∧
        (editingChronicle 15 15).clock s₁ ≤ instant ∧
        instant ≤ (editingChronicle 15 15).clock s₂ ∧
        (editingChronicle 15 15).clock s₂ ≤ (editingChronicle 15 15).clock ⟨20⟩) ∧
      Yields (Snapshot.load editingContext.layout editingContext.mapId
        editingContext.switches).run s₁ (.ok snapshot) s₂ ∧
      t.context.snapshot = placed editingContext snapshot ∧
      (editingChronicle 15 15).StandStill
        (dataFiles editingContext.layout editingContext.mapId)
        ((editingChronicle 15 15).clock s₁) ((editingChronicle 15 15).clock s₂) ∧
      Yields (Snapshot.load editingContext.layout editingContext.mapId
        editingContext.switches).run ((editingChronicle 15 15).still instant) (.ok snapshot)
        ((editingChronicle 15 15).still instant) := by
  obtain ⟨t, htick, hcommitted⟩ := editing_commits
  exact ⟨t, htick, hcommitted, tick_untorn (editingChronicle 15 15) rfl
    (fun path _ => editing_neverReturns 15 15 path) (editing_injOn 15) htick hcommitted⟩

section

variable {σ : Type} [DataSource (StateM σ)] [BitmapLoader (StateM σ)]

/-- A fingerprint was taken before a load, and once the load has ended with `loaded` the data set
has another one, or none because a file cannot be read. -/
inductive MovesDuring (w : ReloadWatcher) (c : FieldContext) (s : σ) :
    Except Fault Snapshot → Prop
  | intro {before : Fingerprint} {after : Except Fault Fingerprint} {loaded : Except Fault Snapshot}
      {s₁ s₂ s₃ s₄ : σ} (hpause : Yields (DataSource.pause w.config.graceMs) s () s₁)
      (hbefore : Yields (fingerprint c.layout c.mapId).run s₁ (.ok before) s₂)
      (hload : Yields (Snapshot.load c.layout c.mapId c.switches).run s₂ loaded s₃)
      (hafter : Yields (fingerprint c.layout c.mapId).run s₃ after s₄)
      (hmoved : after ≠ .ok before) : MovesDuring w c s loaded

/-- The next tick looks at the marker in any case, and if it sees the time `seen` there with the map
on screen, it reloads. -/
def Retries (σ : Type) [DataSource (StateM σ)] [BitmapLoader (StateM σ)] (w : ReloadWatcher)
    (seen : Stamp) : Prop :=
  w.retry = true ∧ ∀ (c : FieldContext) (s s₁ s' : σ) (t : ReloadTick), c.scene.isMap = true →
    w.Looks c s (.ok seen) s₁ → Yields ({ w with phase := .reloading }.reload c seen) s₁ t s' →
      Yields (w.tick c) s { t with watcher := { t.watcher with phase := .idle } } s'

/-- A tick that sees the time `seen` of the marker does nothing. -/
def GivesUp (σ : Type) [DataSource (StateM σ)] [BitmapLoader (StateM σ)] (w : ReloadWatcher)
    (seen : Stamp) : Prop :=
  ∀ (c : FieldContext) (s s' : σ), w.Looks c s (.ok seen) s' →
    Yields (w.tick c) s
      { result := .ok .unchanged, watcher := { w with retry := false }, context := c } s'

/-- A watcher that has been told to look tries a time that calls for a reload. -/
theorem CallsFor.retries {w : ReloadWatcher} {seen : Stamp} (hcall : w.CallsFor seen)
    (hretry : w.retry = true) : w.Retries σ seen :=
  ⟨hretry, fun _ _ _ _ _ hscene hlook hreload =>
    hlook.yields_tick (hcall.yields_react hscene hreload)⟩

/-- A time that has failed is not tried again. -/
theorem givesUp_of_failed {w : ReloadWatcher} {seen baseline : Stamp}
    (hbaseline : w.baseline = some baseline) (hfailed : w.failed = some seen) :
    w.GivesUp σ seen := by
  intro c s s' hlook
  refine hlook.yields_tick ?_
  simp only [react, hbaseline, hfailed, or_true, if_true]
  exact yields_pure.mpr ⟨rfl, rfl⟩

/-- **A data set that moves during a load.** If the load succeeds nevertheless, the data set is
thrown away and tried again. If the load fails, its fault ends the tick before a second fingerprint
is taken, and the time of the marker is given up. In both cases the session stays as it was. -/
theorem tick_of_moving_files {w : ReloadWatcher} {c : FieldContext} {seen : Stamp} {s s₁ : σ}
    {loaded : Except Fault Snapshot} (hconfirm : w.config.confirmFingerprint = true)
    (hlook : w.Looks c s (.ok seen) s₁) (hcall : w.CallsFor seen) (hscene : c.scene.isMap = true)
    (hmoves : w.MovesDuring c s₁ loaded) :
    ∃ t s', Yields (w.tick c) s t s' ∧ t.Keeps c ∧ t.watcher.baseline = w.baseline ∧
      ((∃ snapshot, loaded = .ok snapshot ∧ t.result = .ok .rejected ∧
          t.watcher.failed = w.failed ∧ t.watcher.Retries σ seen) ∨
        ∃ fault, loaded = .error fault ∧ t.result = .error fault ∧
          t.watcher.failed = some seen ∧ t.watcher.GivesUp σ seen) := by
  obtain @⟨before, after, _, s₂, s₃, s₄, s₅, hpause, hbefore, hload, hafter, hmoved⟩ := hmoves
  have hcheck : Yields (w.checkpoint c) s₂ (.ok (some before)) s₃ :=
    (yields_checkpoint hconfirm).mpr ⟨.ok before, hbefore, rfl⟩
  have hcheck' : Yields (w.checkpoint c) s₄ (after.map some) s₅ :=
    (yields_checkpoint hconfirm).mpr ⟨after, hafter, rfl⟩
  obtain ⟨baseline, hbaseline, -⟩ := id hcall
  let reloading : ReloadWatcher := { w with phase := .reloading }
  cases loaded with
  | error fault =>
    have hreload : reloading.Reloads c seen s₁ (reloading.abandon c seen fault) s₄ :=
      .loadFailed (.intro hpause hcheck hload)
    refine ⟨_, s₄, hlook.yields_tick (hcall.yields_react hscene hreload.yields_reload), ?_, rfl, ?_⟩
    · exact reloading.abandon_keeps c c.bitmaps seen fault
    · exact .inr ⟨fault, rfl, rfl, rfl, givesUp_of_failed hbaseline rfl⟩
  | ok snapshot =>
    obtain ⟨reason, hreload⟩ : ∃ reason,
        reloading.Reloads c seen s₁ (reloading.reject c reason) s₅ := by
      cases after with
      | error fault => exact ⟨_, .unreadableAfter (.intro hpause hcheck hload) hcheck'⟩
      | ok other =>
        have hother : some other ≠ some before :=
          fun h => hmoved (congrArg Except.ok (Option.some.inj h))
        exact ⟨_, .moved (.intro hpause hcheck hload) hcheck' hother⟩
    refine ⟨_, s₅, hlook.yields_tick (hcall.yields_react hscene hreload.yields_reload), ?_, rfl, ?_⟩
    · exact reloading.reject_keeps c reason
    · exact .inl ⟨snapshot, rfl, rfl, rfl, CallsFor.retries hcall rfl⟩

end

/-- The data set moves if the table of actors is written during a load that begins at instant 8. -/
private theorem editing_moves {start stop now : Nat} {loaded : Except Fault Snapshot}
    (hload : Yields (Snapshot.load editingContext.layout editingContext.mapId
      editingContext.switches).run (⟨8⟩ : Editing start stop) loaded ⟨now⟩)
    (hold : editedActors start stop 2 = [0x5B, 0x5D])
    (hnew : editedActors start stop now = [0x5B, 0x20, 0x5D]) :
    editingWatcher.MovesDuring editingContext (⟨1⟩ : Editing start stop) loaded := by
  have hpause : Yields (DataSource.pause 100) (⟨1⟩ : Editing start stop) () ⟨2⟩ := rfl
  have hbefore := yields_fingerprint_editing start stop 2
  have hafter := yields_fingerprint_editing start stop now
  rw [hold] at hbefore
  rw [hnew] at hafter
  exact .intro hpause hbefore hload hafter fun h => editingStream_ne (Except.ok.inj h)

/-- A table that is written at a stroke right behind its load is loaded again by the next tick. -/
theorem editing_retried : ∃ t s',
    Yields (editingWatcher.tick editingContext) (⟨0⟩ : Editing 9 9) t s' ∧
      t.Keeps editingContext ∧ t.watcher.baseline = editingWatcher.baseline ∧
      ((∃ snapshot : Snapshot, (.ok {} : Except Fault Snapshot) = .ok snapshot ∧
          t.result = .ok .rejected ∧ t.watcher.failed = editingWatcher.failed ∧
          t.watcher.Retries (Editing 9 9) { seconds := 1 }) ∨
        ∃ fault : Fault, (.ok {} : Except Fault Snapshot) = .error fault ∧
          t.result = .error fault ∧ t.watcher.failed = some { seconds := 1 } ∧
          t.watcher.GivesUp (Editing 9 9) { seconds := 1 }) := by
  have hload : Yields (Snapshot.load editingLayout 0 {} :
      Reading (StateM (Editing 9 9)) Snapshot).run ⟨8⟩ (.ok {}) ⟨14⟩ := by
    unfold Yields
    cbv
  exact tick_of_moving_files rfl (looks_editing rfl rfl 0) callsFor_editing rfl
    (editing_moves hload (by decide) (by decide))

/-- A table that is half written when it is loaded, and complete right afterwards, ends the tick
with a fault. The next tick sees the same time of the marker and does nothing: the data set is not
loaded again. -/
theorem half_written_not_retried : ∃ fault t,
    editingWatcher.Looks editingContext (⟨0⟩ : Editing 8 9) (.ok { seconds := 1 }) ⟨1⟩ ∧
      editingWatcher.CallsFor { seconds := 1 } ∧
      editingWatcher.MovesDuring editingContext (⟨1⟩ : Editing 8 9) (.error fault) ∧
      Yields (editingWatcher.tick editingContext) (⟨0⟩ : Editing 8 9) t ⟨9⟩ ∧
      t.result = .error fault ∧ t.watcher.failed ≠ editingWatcher.failed ∧
      Yields (t.watcher.tick t.context) (⟨9⟩ : Editing 8 9)
        { t with result := .ok .unchanged } ⟨10⟩ := by
  have hload : Yields (Snapshot.load editingLayout 0 {} :
      Reading (StateM (Editing 8 9)) Snapshot).run ⟨8⟩
      (.error (.corrupt "Actors" ⟨"Actors.json"⟩
        (.during (.parseFile ⟨"Actors.json"⟩) (.json .truncated)))) ⟨9⟩ := by
    unfold Yields
    cbv
  have hpause : Yields (DataSource.pause 100) (⟨1⟩ : Editing 8 9) () ⟨2⟩ := rfl
  have hbefore : Yields (editingWatcher.checkpoint editingContext) (⟨2⟩ : Editing 8 9) _ ⟨8⟩ :=
    (yields_checkpoint rfl).mpr ⟨_, yields_fingerprint_editing 8 9 2, rfl⟩
  have hloads : { editingWatcher with phase := .reloading }.LoadsSnapshot editingContext
      (⟨1⟩ : Editing 8 9) _ _ ⟨9⟩ := .intro hpause hbefore hload
  have htick := (looks_editing rfl rfl 0).yields_tick
    (callsFor_editing.yields_react rfl (Reloads.loadFailed hloads).yields_reload)
  refine ⟨_, _, looks_editing rfl rfl 0, callsFor_editing,
    editing_moves hload (by decide) (by decide), htick, rfl, by decide, ?_⟩
  exact givesUp_of_failed rfl rfl _ _ _ (looks_editing rfl rfl 9)

end ReloadWatcher

end Overworld
