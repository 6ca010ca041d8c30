import Overworld.Proofs.Reload.Exits

/-!
# A reload tick is all or nothing

A tick that commits puts exactly one loaded snapshot in place, together with the scene
built from it. A tick that ends in any other way leaves the running session as it was and
tells the host about a refused data set exactly once.
-/

namespace Overworld

/-- The result refuses a data set, for now or for good. -/
def ReloadTick.Refuses (t : ReloadTick) : Prop :=
  t.result = .ok .rejected ∨ ∃ fault, t.result = .error fault

/-- The notices of a tick that commits nothing: one of the refusal, if it refuses a data set. -/
def ReloadTick.Announces (t : ReloadTick) (announced : NoticeBoard) : Prop :=
  (t.Refuses ∧ ∃ reason, announced = [.reloadRejected reason]) ∨ (¬ t.Refuses ∧ announced = [])

/-- A tick that commits nothing has left a context as it was, but for the bitmaps kept and for
notices behind the earlier ones. -/
def ReloadTick.Keeps (t : ReloadTick) (c : FieldContext) : Prop :=
  ∃ bitmaps announced, t.Announces announced ∧
    t.context = { c with bitmaps, notices := c.notices ++ announced }

namespace ReloadWatcher

variable {σ : Type} [DataSource (StateM σ)] [BitmapLoader (StateM σ)]

/-- A tick has put in place the snapshot that its load gave and the scene built from it. The load
is the one between the two fingerprints, for the map that was live. -/
inductive Commits (w : ReloadWatcher) (c : FieldContext) (s : σ) : ReloadTick → σ → Prop
  | intro {seen : Stamp} {print : Option Fingerprint} {snapshot : Snapshot} {scene : MapScene}
      {bitmaps : BitmapCache} {s₁ s₂ s₃ s₄ s₅ s' : σ}
      (hlook : w.Looks c s (.ok seen) s₁)
      (hpause : Yields (DataSource.pause w.config.graceMs) s₁ () s₂)
      (hbefore : Yields (w.checkpoint c) s₂ (.ok print) s₃)
      (hload : Yields (Snapshot.load c.layout c.mapId c.switches).run s₃ (.ok snapshot) s₄)
      (hafter : Yields (w.checkpoint c) s₄ (.ok print) s₅)
      (hscene : Yields (MapScene.build c.bitmaps.clear (placed c snapshot) c.player) s₅
        (.ok scene, bitmaps) s') :
      Commits w c s
        { result := .ok .committed
          watcher := { w with
            phase := .idle, baseline := some seen, failed := none, retry := false
            reloads := w.reloads + 1 }
          context := { c with
            snapshot := placed c snapshot, bitmaps, scene := .map scene
            generation := c.generation + 1
            notices := c.notices ++ [.reloadCommitted c.mapId] } } s'

/-- A tick that has put a snapshot in place says so. -/
theorem Commits.result_eq {w : ReloadWatcher} {c : FieldContext} {s s' : σ} {t : ReloadTick}
    (h : w.Commits c s t s') : t.result = .ok .committed := by
  cases h
  rfl

omit [BitmapLoader (StateM σ)] in
/-- A tick that loads nothing keeps the session and tells the host nothing. -/
theorem Rests.keeps {w : ReloadWatcher} {c : FieldContext} {s s' : σ} {t : ReloadTick}
    (h : w.Rests c s t s') : t.result ≠ .ok .committed ∧ t.Keeps c := by
  have hsilent : ∀ {t : ReloadTick}, t.result = .ok .unchanged ∨ t.result = .ok .deferred →
      t.context = c → t.result ≠ .ok .committed ∧ t.Keeps c := by
    intro t hresult hcontext
    have hrefuses : ¬ t.Refuses := by
      rintro (hrejected | ⟨fault, hfault⟩) <;> rcases hresult with h | h <;> simp_all
    refine ⟨by rcases hresult with h | h <;> simp [h], c.bitmaps, [], .inr ⟨hrefuses, rfl⟩, ?_⟩
    rw [hcontext, List.append_nil]
  cases h with
  | disabled | unasked | unstatted | armed | settled => exact hsilent (.inl rfl) rfl
  | deferred => exact hsilent (.inr rfl) rfl

/-- A data set that is thrown away for now is announced once, and keeps the session. -/
theorem reject_keeps (w : ReloadWatcher) (c : FieldContext) (reason : String) :
    (w.reject c reason).Keeps c :=
  ⟨c.bitmaps, _, .inl ⟨.inl rfl, reason, rfl⟩, rfl⟩

/-- A modification time that is given up is announced once, and keeps the session. The bitmaps may
have been forgotten by then. -/
theorem abandon_keeps (w : ReloadWatcher) (c : FieldContext) (bitmaps : BitmapCache) (seen : Stamp)
    (fault : Fault) : (w.abandon { c with bitmaps } seen fault).Keeps c :=
  ⟨bitmaps, _, .inl ⟨.inr ⟨fault, rfl⟩, fault.message, rfl⟩, rfl⟩

/-- A reload keeps the session or commits the snapshot that it has loaded. -/
theorem Reloads.keeps_or_commits {w : ReloadWatcher} {c : FieldContext} {seen : Stamp}
    {s s₁ s' : σ} {t : ReloadTick} (hlook : w.Looks c s (.ok seen) s₁)
    (h : { w with phase := .reloading }.Reloads c seen s₁ t s') :
    (t.result ≠ .ok .committed ∧ t.Keeps c) ∨
      w.Commits c s { t with watcher := { t.watcher with phase := .idle } } s' := by
  cases h with
  | unreadableBefore => exact .inl ⟨by simp [rejectUnreadable, reject], reject_keeps ..⟩
  | loadFailed => exact .inl ⟨by simp [abandon], abandon_keeps _ c c.bitmaps ..⟩
  | unreadableAfter => exact .inl ⟨by simp [rejectUnreadable, reject], reject_keeps ..⟩
  | moved => exact .inl ⟨by simp [reject], reject_keeps ..⟩
  | sceneFailed => exact .inl ⟨by simp [abandon], abandon_keeps ..⟩
  | committed hconfirm hscene =>
    obtain ⟨⟨hpause, hbefore, hload⟩, hafter⟩ := hconfirm
    exact .inr (.intro hlook hpause hbefore hload hafter hscene)

/-- The watchers that a host can have: new ones, and what their registration, an arming and a tick
make of them, in any surroundings. -/
inductive Reachable (σ : Type) [DataSource (StateM σ)] [BitmapLoader (StateM σ)] :
    ReloadWatcher → Prop
  | new (config : ReloadConfig) (marker : TableKind) : Reachable σ { config, marker }
  | armed {w w' : ReloadWatcher} {layout : DataLayout} {result : Except Fault Unit} {s s' : σ}
      (hw : Reachable σ w) (h : Yields (w.arm layout) s (result, w') s') : Reachable σ w'
  | built {w : ReloadWatcher} {c : FieldContext} {hooked : Hooked ReloadWatcher} {s s' : σ}
      (hw : Reachable σ w) (h : Yields (w.onBuild c) s hooked s') : Reachable σ hooked.plugin
  | ticked {w : ReloadWatcher} {c : FieldContext} {t : ReloadTick} {s s' : σ}
      (hw : Reachable σ w) (h : Yields (w.tick c) s t s') : Reachable σ t.watcher

omit [BitmapLoader (StateM σ)] in
/-- Arming a watcher has nothing to do with its phase. -/
theorem phase_arm {w w' : ReloadWatcher} {layout : DataLayout} {result : Except Fault Unit}
    {s s' : σ} (h : Yields (w.arm layout) s (result, w') s') : w'.phase = w.phase := by
  simp only [arm, yields_bind] at h
  obtain ⟨answer, s₁, -, h⟩ := h
  cases answer <;> simp only [yields_pure, Prod.mk.injEq] at h <;> rw [h.1.2]

omit [BitmapLoader (StateM σ)] in
/-- Registering a watcher has nothing to do with its phase. -/
theorem phase_onBuild {w : ReloadWatcher} {c : FieldContext} {hooked : Hooked ReloadWatcher}
    {s s' : σ} (h : Yields (w.onBuild c) s hooked s') : hooked.plugin.phase = w.phase := by
  simp only [onBuild, yields_bind, yields_pure] at h
  obtain ⟨probe, s₁, -, ⟨result, armed⟩, s₂, harm, rfl, rfl⟩ := h
  simpa only using phase_arm harm

/-- A tick that loads nothing leaves the phase as it was, and a reload is over at its end. -/
theorem phase_tick {w : ReloadWatcher} {c : FieldContext} {t : ReloadTick} {s s' : σ}
    (h : Yields (w.tick c) s t s') : t.watcher.phase = w.phase ∨ t.watcher.phase = .idle := by
  cases tick_exits h with
  | rest hrest => left; cases hrest <;> rfl
  | reload => exact .inr rfl

/-- Between ticks no reload is under way. -/
theorem Reachable.phase_eq {w : ReloadWatcher} (h : Reachable σ w) : w.phase = .idle := by
  induction h with
  | new => rfl
  | armed _ harm ih => rw [phase_arm harm, ih]
  | built _ hbuild ih => rw [phase_onBuild hbuild, ih]
  | ticked _ htick ih => rcases phase_tick htick with h | h <;> simp [h, ih]

/-- **A tick is all or nothing.** For every watcher, context, data source and bitmap loader, a tick
that does not commit keeps the session, with one notice exactly if it refuses a data set; a tick
that commits has put in place the snapshot loaded for the live map and its scene. A watcher that
is idle is idle afterwards, and every watcher that a host can have is. -/
theorem tick_all_or_nothing (w : ReloadWatcher) (c : FieldContext) (s : σ) :
    ∃ t s', Yields (w.tick c) s t s' ∧
      ((t.result ≠ .ok .committed ∧ t.Keeps c) ∨
        (t.result = .ok .committed ∧ w.Commits c s t s')) ∧
      (w.phase = .idle ∨ Reachable σ w → t.watcher.phase = .idle) := by
  obtain ⟨t, s', h⟩ : ∃ t s', Yields (w.tick c) s t s' := ⟨_, _, yields_run ..⟩
  have hidle : w.phase = .idle ∨ Reachable σ w → t.watcher.phase = .idle := by
    intro hw
    have hbefore : w.phase = .idle := hw.elim id Reachable.phase_eq
    rcases phase_tick h with hsame | hover
    · rw [hsame, hbefore]
    · exact hover
  refine ⟨t, s', h, ?_, hidle⟩
  cases tick_exits h with
  | rest hrest => exact .inl hrest.keeps
  | reload hlook _ _ hreload =>
    rcases hreload.keeps_or_commits hlook with hkeeps | hcommits
    · exact .inl hkeeps
    · exact .inr ⟨hcommits.result_eq, hcommits⟩

end ReloadWatcher

end Overworld
