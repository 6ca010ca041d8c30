import Mathlib.Data.List.Forall2
import Overworld.Data.FileTree
import Overworld.Proofs.Data.DataStream
import Overworld.Scene

/-!
# Files in the course of time

While a session reads its files, an editor writes to them. A chronicle says what every file holds
at every instant, and a read that succeeds gives what its file holds at some instant of the read.
Nothing else is known: any number of writes can fall between two reads, and reads can fail at any
time. If no file returns to what it held before, and two passes over the files give the same, then
nothing was written to them between the passes.
-/

namespace Overworld

section

variable {σ α β : Type}

/-- The clock never goes back in the course of a computation. -/
def Forward (clock : σ → Nat) (x : StateM σ α) : Prop :=
  ∀ s a s', Yields x s a s' → clock s ≤ clock s'

variable {clock : σ → Nat}

/-- An answer that needs nothing from outside takes no time. -/
theorem forward_pure (a : α) : Forward clock (pure a : StateM σ α) := by
  intro s b s' h
  exact (yields_pure.mp h).2 ▸ Nat.le_refl _

/-- The clock never goes back in two computations in a row. -/
theorem Forward.bind {x : StateM σ α} {f : α → StateM σ β} (hx : Forward clock x)
    (hf : ∀ a, Forward clock (f a)) : Forward clock (x >>= f) := by
  intro s b s' h
  obtain ⟨a, s₁, hfirst, hsecond⟩ := yields_bind.mp h
  exact Nat.le_trans (hx _ _ _ hfirst) (hf a _ _ _ hsecond)

end

/-- What files hold in the course of time, as it shows in the answers of a data source. -/
structure Chronicle (σ : Type) [DataSource (StateM σ)] [BitmapLoader (StateM σ)] where
  /-- The instant that the surroundings have come to. -/
  clock : σ → Nat
  /-- What a file holds at an instant, if it is there. -/
  holds : Nat → FilePath → Option Bytes
  /-- Lengths of files are words of 64 bits. -/
  length_lt {instant : Nat} {path : FilePath} {bytes : Bytes} :
    holds instant path = some bytes → bytes.length < UInt64.size
  /-- A read that succeeds gives what the file holds at an instant of the read. -/
  read_at {path : FilePath} {bytes : Bytes} {s s' : σ} :
    Yields (DataSource.read path) s (.ok bytes) s' →
      ∃ instant, clock s ≤ instant ∧ instant ≤ clock s' ∧ holds instant path = some bytes
  modified_forward (path : FilePath) :
    Forward clock (DataSource.modified path : StateM σ (Except Fault Stamp))
  noticed_forward : Forward clock (DataSource.noticed : StateM σ Bool)
  pause_forward (ms : Nat) : Forward clock (DataSource.pause ms : StateM σ Unit)
  load_forward (folder file : String) (hue : Nat) :
    Forward clock (BitmapLoader.load folder file hue : StateM σ (Except Fault Bitmap))

/-- Files that nobody writes to. -/
structure StillFiles where
  contents : FilePath → Option Bytes

instance : DataSource (StateM StillFiles) where
  read path := return match (← get).contents path with
    | some bytes => .ok bytes
    | none => .error (.during (.readFile path) (.reported FileTree.noSuchFile))
  modified _ := return .ok { seconds := 0 }
  observe _ := return false
  noticed := return false
  pause _ := return ()

namespace Chronicle

variable {σ : Type} [DataSource (StateM σ)] [BitmapLoader (StateM σ)] (ch : Chronicle σ)

/-- A file holds some bytes at some instant of a span of time. -/
def HeldWithin (start stop : Nat) (path : FilePath) (bytes : Bytes) : Prop :=
  ∃ instant, start ≤ instant ∧ instant ≤ stop ∧ ch.holds instant path = some bytes

/-- A file never returns to bytes that it has held before something else. -/
def NeverReturns (path : FilePath) : Prop :=
  ∀ (bytes : Bytes) (t₁ t₂ t₃ : Nat), t₁ ≤ t₂ → t₂ ≤ t₃ → ch.holds t₁ path = some bytes →
    ch.holds t₃ path = some bytes → ch.holds t₂ path = some bytes

/-- The files are there and nothing is written to them in a span of time. -/
def StandStill (paths : List FilePath) (start stop : Nat) : Prop :=
  ∀ path ∈ paths, ∃ bytes, ∀ instant, start ≤ instant → instant ≤ stop →
    ch.holds instant path = some bytes

/-- The files as they are at an instant, with nobody writing to them any more. -/
def still (instant : Nat) : StillFiles := ⟨ch.holds instant⟩

/-- No time runs backwards while a bitmap is fetched. -/
theorem forward_cacheLoad (cache : BitmapCache) (folder file : String) (hue : Int) :
    Forward ch.clock (cache.load folder file hue : StateM σ _) := by
  unfold BitmapCache.load
  split
  · exact forward_pure _
  · split
    · exact forward_pure _
    · refine .bind (ch.load_forward _ _ _) fun answer => ?_
      cases answer <;> exact forward_pure _

/-- No time runs backwards while the characters of a scene are fetched. -/
theorem forward_loadSprites (cache : BitmapCache) (needs : List Need) :
    Forward ch.clock (loadSprites cache needs : StateM σ _) := by
  induction needs generalizing cache with
  | nil => exact forward_pure _
  | cons need needs ih =>
    refine .bind (ch.forward_cacheLoad _ _ _ _) fun ⟨answer, cache⟩ => ?_
    cases answer with
    | error => exact forward_pure _
    | ok => exact .bind (ih cache) fun _ => forward_pure _

/-- No time runs backwards while a scene is built. -/
theorem forward_build (cache : BitmapCache) (snapshot : Snapshot) (player : Player) :
    Forward ch.clock (MapScene.build cache snapshot player : StateM σ _) := by
  refine .bind (ch.forward_cacheLoad _ _ _ _) fun ⟨answer, cache⟩ => ?_
  cases answer with
  | error => exact forward_pure _
  | ok => exact .bind (ch.forward_loadSprites _ _) fun _ => forward_pure _

variable {ch} {paths : List FilePath} {contents : List Bytes} {s s' : σ}

/-- Files that are read one after the other hold what they give at some instants on the way. -/
theorem heldWithin_of_reads (h : Reads paths s contents s') :
    ch.clock s ≤ ch.clock s' ∧
      List.Forall₂ (ch.HeldWithin (ch.clock s) (ch.clock s')) paths contents := by
  induction h with
  | done => exact ⟨Nat.le_refl _, .nil⟩
  | next hread _ ih =>
    obtain ⟨instant, hstart, hstop, hholds⟩ := ch.read_at hread
    obtain ⟨hle, hrest⟩ := ih
    refine ⟨by omega, .cons ⟨instant, hstart, by omega, hholds⟩ (hrest.imp ?_)⟩
    rintro path bytes ⟨later, hlater, hend, hbytes⟩
    exact ⟨later, by omega, hend, hbytes⟩

/-- What a file gives is not longer than files can be. -/
theorem length_lt_of_reads (ch : Chronicle σ) (h : Reads paths s contents s') :
    ∀ bytes ∈ contents, bytes.length < UInt64.size := by
  have hheld := (ch.heldWithin_of_reads h).2
  clear h
  induction hheld with
  | nil => exact fun bytes hbytes => absurd hbytes List.not_mem_nil
  | cons hheld _ ih =>
    obtain ⟨instant, -, -, hholds⟩ := hheld
    exact List.forall_mem_cons.mpr ⟨ch.length_lt hholds, ih⟩

/-- If two passes over files give the same, nothing was written to the files between the passes. -/
theorem standStill_of_reads {s₁ s₂ : σ} (hfirst : Reads paths s contents s₁)
    (hsecond : Reads paths s₂ contents s') (hreturn : ∀ path ∈ paths, ch.NeverReturns path) :
    ch.StandStill paths (ch.clock s₁) (ch.clock s₂) := by
  have hbefore := (ch.heldWithin_of_reads hfirst).2
  have hafter := (ch.heldWithin_of_reads hsecond).2
  clear hfirst hsecond
  induction hbefore with
  | nil => exact fun path hpath => absurd hpath List.not_mem_nil
  | @cons path bytes _ _ hheld _ ih =>
    obtain ⟨hheld', hafter⟩ := List.forall₂_cons.mp hafter
    obtain ⟨hpath, hreturn⟩ := List.forall_mem_cons.mp hreturn
    refine List.forall_mem_cons.mpr ⟨⟨bytes, fun instant hstart hstop => ?_⟩, ih hreturn hafter⟩
    obtain ⟨t₁, -, ht₁, hholds₁⟩ := hheld
    obtain ⟨t₃, ht₃, -, hholds₃⟩ := hheld'
    exact hpath bytes t₁ instant t₃ (by omega) (by omega) hholds₁ hholds₃

/-- If a data set has the same fingerprint twice, nothing was written to it in between. -/
theorem standStill_of_fingerprints {layout : DataLayout} {map : UInt32} {print : Fingerprint}
    {s₁ s₂ s₃ s₄ : σ} (hreturn : ∀ path ∈ dataFiles layout map, ch.NeverReturns path)
    (hcollision : Set.InjOn Fingerprint.ofBytes (dataStreams σ layout map))
    (hbefore : Yields (fingerprint layout map).run s₁ (.ok print) s₂)
    (hafter : Yields (fingerprint layout map).run s₃ (.ok print) s₄) :
    ch.clock s₁ ≤ ch.clock s₂ ∧ ch.clock s₃ ≤ ch.clock s₄ ∧
      ch.StandStill (dataFiles layout map) (ch.clock s₂) (ch.clock s₃) := by
  obtain ⟨stream, hstream, rfl⟩ := fingerprint_ok.mp hbefore
  obtain ⟨stream', hstream', hprint⟩ := fingerprint_ok.mp hafter
  have hsame : stream = stream' := hcollision ⟨_, _, hstream⟩ ⟨_, _, hstream'⟩ hprint
  obtain ⟨tables, maps, hreads, htables, hmaps, rfl⟩ := yields_dataStream hstream
  obtain ⟨tables', maps', hreads', htables', hmaps', rfl⟩ := yields_dataStream hstream'
  have hsize := fun bytes h => ch.length_lt_of_reads hreads bytes (List.mem_append_left _ h)
  have hsize' := fun bytes h => ch.length_lt_of_reads hreads' bytes (List.mem_append_left _ h)
  have hmap : maps.length ≤ 1 := by rw [hmaps]; split <;> omega
  obtain ⟨rfl, rfl⟩ := dataSetStream_inj htables htables' (hmaps.trans hmaps'.symm) hmap hsize
    hsize' hsame
  exact ⟨(ch.heldWithin_of_reads hreads).1, (ch.heldWithin_of_reads hreads').1,
    ch.standStill_of_reads hreads hreads' hreturn⟩

section

variable {α β : Type}

/-- What a computation loads in a span of time in which files stand still is what it loads from the
files as they are at the beginning of the span. -/
def Echoes (ch : Chronicle σ) (paths : List FilePath) (x : Reading (StateM σ) α)
    (y : Reading (StateM StillFiles) α) : Prop :=
  ∀ s a s', Yields x.run s (.ok a) s' → ch.clock s ≤ ch.clock s' ∧
    ∀ start stop, ch.StandStill paths start stop → start ≤ ch.clock s → ch.clock s' ≤ stop →
      Yields y.run (ch.still start) (.ok a) (ch.still start)

/-- An answer that reads nothing is the same anywhere. -/
theorem Echoes.pure (a : α) : ch.Echoes paths (Pure.pure a) (Pure.pure a) := by
  intro s b s' h
  obtain ⟨hb, rfl⟩ := yields_except_pure.mp h
  exact ⟨Nat.le_refl _, fun _ _ _ _ _ => yields_except_pure.mpr ⟨hb, rfl⟩⟩

/-- Two loads in a row. -/
theorem Echoes.bind {x : Reading (StateM σ) α} {y : Reading (StateM StillFiles) α}
    {f : α → Reading (StateM σ) β} {g : α → Reading (StateM StillFiles) β}
    (hx : ch.Echoes paths x y) (hf : ∀ a, ch.Echoes paths (f a) (g a)) :
    ch.Echoes paths (x >>= f) (y >>= g) := by
  intro s b s' h
  simp only [yields_except_bind, reduceCtorEq, and_false, exists_false, or_false] at h
  obtain ⟨a, s₁, hfirst, hsecond⟩ := h
  obtain ⟨hle₁, hstill₁⟩ := hx _ _ _ hfirst
  obtain ⟨hle₂, hstill₂⟩ := hf a _ _ _ hsecond
  refine ⟨by omega, fun start stop hstands hstart hstop => ?_⟩
  refine yields_except_bind.mpr (.inl ⟨a, ch.still start, ?_, ?_⟩)
  · exact hstill₁ start stop hstands hstart (by omega)
  · exact hstill₂ start stop hstands (by omega) hstop

/-- A file that is loaded is one that can be read. -/
theorem Echoes.loadFile {label : String} {path : FilePath} {decode : Bytes → Except Fault α}
    (hpath : path ∈ paths) :
    ch.Echoes paths (Overworld.loadFile label path decode)
      (Overworld.loadFile label path decode) := by
  intro s a s' h
  obtain ⟨answer, s₁, hread, h⟩ := yields_bind.mp h
  cases answer with
  | error fault => cases (yields_pure.mp h).1
  | ok bytes =>
    obtain ⟨hdecode, rfl⟩ := yields_pure.mp h
    obtain ⟨instant, hafter, hbefore, hholds⟩ := ch.read_at hread
    refine ⟨by omega, fun start stop hstands hstart hstop => ?_⟩
    obtain ⟨bytes', hbytes'⟩ := hstands path hpath
    obtain rfl : bytes = bytes' := Option.some.inj
      (hholds.symm.trans (hbytes' instant (by omega) (by omega)))
    have hstill := hbytes' start (Nat.le_refl _) (by omega)
    refine yields_bind.mpr ⟨.ok bytes, _, ?_, yields_pure.mpr ⟨hdecode, rfl⟩⟩
    refine yields_pure.mpr ⟨?_, rfl⟩
    simp only [still, hstill]

end

variable {layout : DataLayout} {map : UInt32}

/-- A table is one of the files of a data set. -/
theorem tablePath_mem_dataFiles (kind : TableKind) :
    layout.tablePath kind ∈ dataFiles layout map := by
  refine List.mem_append_left _ (List.mem_map.mpr ⟨kind, ?_, rfl⟩)
  cases kind <;> decide

/-- The map is one of the files of a data set, unless it is the empty map. -/
theorem mapPath_mem_dataFiles (hmap : map ≠ 0) : layout.mapPath map ∈ dataFiles layout map := by
  unfold dataFiles
  rw [if_neg hmap]
  exact List.mem_append_right _ (List.mem_singleton_self _)

section

variable {m n : Type → Type} [Monad m] [Monad n] [DataSource m] [DataSource n]

/-- A load of a snapshot is made of answers and of files of the data set that are loaded. So two
loads, in surroundings of two kinds, are related in every way in which these parts are. -/
theorem snapshot_load_related {R : ∀ {α : Type}, Reading m α → Reading n α → Prop}
    (hpure : ∀ {α : Type} (a : α), R (pure a) (pure a))
    (hbind : ∀ {α β : Type} {x : Reading m α} {y : Reading n α} {f : α → Reading m β}
      {g : α → Reading n β}, R x y → (∀ a, R (f a) (g a)) → R (x >>= f) (y >>= g))
    (hfile : ∀ {α : Type} {label : String} {path : FilePath} {decode : Bytes → Except Fault α},
      path ∈ dataFiles layout map → R (loadFile label path decode) (loadFile label path decode))
    (switches : SelfSwitches) :
    R (Snapshot.load layout map switches) (Snapshot.load layout map switches) := by
  have htable {α : Type} (shape : Json.Shape α) (kind : TableKind) :
      R (loadTable layout shape kind) (loadTable layout shape kind) :=
    hfile (tablePath_mem_dataFiles kind)
  have htables : R (DataTables.load layout) (DataTables.load layout) := by
    unfold DataTables.load
    iterate 6 refine hbind (htable _ _) fun _ => ?_
    exact hpure _
  refine hbind htables fun tables => ?_
  by_cases hmap : map = 0
  · simp only [if_pos hmap]
    exact hpure _
  · simp only [if_neg hmap]
    exact hbind (hfile (mapPath_mem_dataFiles hmap)) fun record => hpure _

end

/-- A data set that is loaded while its files stand still is the one of a single instant. -/
theorem snapshot_load_echoes (switches : SelfSwitches) :
    ch.Echoes (dataFiles layout map) (Snapshot.load layout map switches)
      (Snapshot.load layout map switches) :=
  snapshot_load_related (R := ch.Echoes (dataFiles layout map)) .pure .bind .loadFile switches

end Chronicle

end Overworld
