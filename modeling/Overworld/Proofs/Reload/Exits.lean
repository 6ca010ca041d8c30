import Overworld.Proofs.Surroundings
import Overworld.Reload.Watcher

/-!
# The ways out of a reload tick

A tick of the watcher ends in one of twelve ways: six before anything is loaded, six
during a reload. Each is listed with the questions it has put to the surroundings, in
their order, and with the exact watcher and context that it leaves. Conversely, a reload
whose questions get these answers goes that way.
-/

namespace Overworld

namespace ReloadWatcher

variable {σ : Type} [DataSource (StateM σ)]

/-- The watcher looks at the marker table: it is enabled, and its probe or an earlier tick asks
for it. `answer` is what the data source says about the marker. -/
inductive Looks (w : ReloadWatcher) (c : FieldContext) (s : σ) :
    Except Fault Stamp → σ → Prop
  | intro {asked : Bool} {answer : Except Fault Stamp} {s₁ s' : σ}
      (henabled : w.config.enabled = true) (hprobe : Yields w.probe.shouldLook s asked s₁)
      (hasked : asked = true ∨ w.retry = true)
      (hstat : Yields (DataSource.modified (c.layout.tablePath w.marker)) s₁ answer s') :
      Looks w c s answer s'

/-- The marker time `seen` calls for a reload: it is neither that of the running data nor one that
has failed. -/
def CallsFor (w : ReloadWatcher) (seen : Stamp) : Prop :=
  ∃ baseline, w.baseline = some baseline ∧ seen ≠ baseline ∧ some seen ≠ w.failed

/-- The ticks that load nothing. -/
inductive Rests (w : ReloadWatcher) (c : FieldContext) (s : σ) : ReloadTick → σ → Prop
  | disabled (h : w.config.enabled = false) :
      Rests w c s { result := .ok .unchanged, watcher := w, context := c } s
  | unasked {s' : σ} (hprobe : Yields w.probe.shouldLook s false s') (hretry : w.retry = false) :
      Rests w c s { result := .ok .unchanged, watcher := w, context := c } s'
  | unstatted {fault : Fault} {s' : σ} (hlook : w.Looks c s (.error fault) s') :
      Rests w c s
        { result := .ok .unchanged, watcher := { w with retry := true }, context := c } s'
  | armed {seen : Stamp} {s' : σ} (hlook : w.Looks c s (.ok seen) s') (hbare : w.baseline = none) :
      Rests w c s
        { result := .ok .unchanged
          watcher := { w with baseline := some seen, retry := false }, context := c } s'
  | settled {seen baseline : Stamp} {s' : σ} (hlook : w.Looks c s (.ok seen) s')
      (hbaseline : w.baseline = some baseline) (hseen : seen = baseline ∨ some seen = w.failed) :
      Rests w c s
        { result := .ok .unchanged, watcher := { w with retry := false }, context := c } s'
  | deferred {seen : Stamp} {s' : σ} (hlook : w.Looks c s (.ok seen) s')
      (hcall : w.CallsFor seen) (hscene : c.scene.isMap = false) :
      Rests w c s
        { result := .ok .deferred, watcher := { w with retry := true }, context := c } s'

/-- A reload gets as far as a loaded snapshot: `print` is the fingerprint taken before the load. -/
inductive LoadsSnapshot (w : ReloadWatcher) (c : FieldContext) (s : σ) :
    Option Fingerprint → Except Fault Snapshot → σ → Prop
  | intro {print : Option Fingerprint} {loaded : Except Fault Snapshot} {s₁ s₂ s' : σ}
      (hpause : Yields (DataSource.pause w.config.graceMs) s () s₁)
      (hbefore : Yields (w.checkpoint c) s₁ (.ok print) s₂)
      (hload : Yields (Snapshot.load c.layout c.mapId c.switches).run s₂ loaded s') :
      LoadsSnapshot w c s print loaded s'

/-- A reload gets as far as a confirmed snapshot: the data set has the same fingerprint before and
after the load. -/
inductive Confirms (w : ReloadWatcher) (c : FieldContext) (s : σ) : Snapshot → σ → Prop
  | intro {print : Option Fingerprint} {snapshot : Snapshot} {s₁ s' : σ}
      (hload : w.LoadsSnapshot c s print (.ok snapshot) s₁)
      (hafter : Yields (w.checkpoint c) s₁ (.ok print) s') : Confirms w c s snapshot s'

/-- A loaded snapshot as it is put in place: scrolled to the player. -/
def placed (c : FieldContext) (snapshot : Snapshot) : Snapshot :=
  { snapshot with map := snapshot.map.centerOn c.player.x c.player.y c.config.screen }

variable [BitmapLoader (StateM σ)]

/-- The ticks that reload because of the marker time `seen`. -/
inductive Reloads (w : ReloadWatcher) (c : FieldContext) (seen : Stamp) (s : σ) :
    ReloadTick → σ → Prop
  | unreadableBefore {fault : Fault} {s₁ s' : σ}
      (hpause : Yields (DataSource.pause w.config.graceMs) s () s₁)
      (hbefore : Yields (w.checkpoint c) s₁ (.error fault) s') :
      Reloads w c seen s (w.rejectUnreadable c fault) s'
  | loadFailed {print : Option Fingerprint} {fault : Fault} {s' : σ}
      (hload : w.LoadsSnapshot c s print (.error fault) s') :
      Reloads w c seen s (w.abandon c seen fault) s'
  | unreadableAfter {print : Option Fingerprint} {snapshot : Snapshot} {fault : Fault} {s₁ s' : σ}
      (hload : w.LoadsSnapshot c s print (.ok snapshot) s₁)
      (hafter : Yields (w.checkpoint c) s₁ (.error fault) s') :
      Reloads w c seen s (w.rejectUnreadable c fault) s'
  | moved {print other : Option Fingerprint} {snapshot : Snapshot} {s₁ s' : σ}
      (hload : w.LoadsSnapshot c s print (.ok snapshot) s₁)
      (hafter : Yields (w.checkpoint c) s₁ (.ok other) s') (hmoved : other ≠ print) :
      Reloads w c seen s (w.reject c "data changed while loading") s'
  | sceneFailed {snapshot : Snapshot} {fault : Fault} {bitmaps : BitmapCache} {s₁ s' : σ}
      (hconfirm : w.Confirms c s snapshot s₁)
      (hscene : Yields (MapScene.build c.bitmaps.clear (placed c snapshot) c.player) s₁
        (.error fault, bitmaps) s') :
      Reloads w c seen s
        (w.abandon { c with bitmaps } seen (.corrupt sceneLabel (c.layout.mapPath c.mapId) fault))
        s'
  | committed {snapshot : Snapshot} {scene : MapScene} {bitmaps : BitmapCache} {s₁ s' : σ}
      (hconfirm : w.Confirms c s snapshot s₁)
      (hscene : Yields (MapScene.build c.bitmaps.clear (placed c snapshot) c.player) s₁
        (.ok scene, bitmaps) s') :
      Reloads w c seen s
        { result := .ok .committed
          watcher := { w with
            baseline := some seen, failed := none, retry := false, reloads := w.reloads + 1 }
          context := { c with
            snapshot := placed c snapshot, bitmaps, scene := .map scene
            generation := c.generation + 1 }.notify (.reloadCommitted c.mapId) } s'

/-- The ways out of a tick. -/
inductive Exits (w : ReloadWatcher) (c : FieldContext) (s : σ) : ReloadTick → σ → Prop
  | rest {t : ReloadTick} {s' : σ} (hrest : w.Rests c s t s') : Exits w c s t s'
  | reload {seen : Stamp} {t : ReloadTick} {s₁ s' : σ} (hlook : w.Looks c s (.ok seen) s₁)
      (hcall : w.CallsFor seen) (hscene : c.scene.isMap = true)
      (hreload : { w with phase := .reloading }.Reloads c seen s₁ t s') :
      Exits w c s { t with watcher := { t.watcher with phase := .idle } } s'

/-- A confirmed snapshot is committed, unless its scene cannot be built. -/
theorem commit_exits {w : ReloadWatcher} {c : FieldContext} {seen : Stamp} {snapshot : Snapshot}
    {s s₁ s' : σ} {t : ReloadTick} (hconfirm : w.Confirms c s snapshot s₁)
    (h : Yields (w.commit c seen snapshot) s₁ t s') : w.Reloads c seen s t s' := by
  simp only [commit, yields_bind] at h
  obtain ⟨⟨built, bitmaps⟩, s₂, hscene, h⟩ := h
  cases built with
  | error fault =>
    obtain ⟨rfl, rfl⟩ := yields_pure.mp h
    exact .sceneFailed hconfirm hscene
  | ok scene =>
    obtain ⟨rfl, rfl⟩ := yields_pure.mp h
    exact .committed hconfirm hscene

/-- A reload takes one of its six ways out. -/
theorem reload_exits {w : ReloadWatcher} {c : FieldContext} {seen : Stamp} {s s' : σ}
    {t : ReloadTick} (h : Yields (w.reload c seen) s t s') : w.Reloads c seen s t s' := by
  simp only [reload, yields_bind] at h
  obtain ⟨⟨⟩, s₁, hpause, before, s₂, hbefore, h⟩ := h
  cases before with
  | error fault =>
    obtain ⟨rfl, rfl⟩ := yields_pure.mp h
    exact .unreadableBefore hpause hbefore
  | ok print =>
    obtain ⟨loaded, s₃, hload, h⟩ := yields_bind.mp h
    have hloads := LoadsSnapshot.intro hpause hbefore hload
    cases loaded with
    | error fault =>
      obtain ⟨rfl, rfl⟩ := yields_pure.mp h
      exact .loadFailed hloads
    | ok snapshot =>
      obtain ⟨after, s₄, hafter, h⟩ := yields_bind.mp h
      cases after with
      | error fault =>
        obtain ⟨rfl, rfl⟩ := yields_pure.mp h
        exact .unreadableAfter hloads hafter
      | ok other =>
        by_cases hmoved : other = print
        · subst hmoved
          simp only [if_true] at h
          exact commit_exits (.intro hloads hafter) h
        · simp only [if_neg hmoved] at h
          obtain ⟨rfl, rfl⟩ := yields_pure.mp h
          exact .moved hloads hafter hmoved

/-- What a watcher does about a marker time that it has just seen. -/
theorem react_exits {w : ReloadWatcher} {c : FieldContext} {seen : Stamp} {s s₁ s' : σ}
    {t : ReloadTick} (hlook : w.Looks c s (.ok seen) s₁) (h : Yields (w.react c seen) s₁ t s') :
    w.Exits c s t s' := by
  unfold react at h
  split at h
  case h_1 hbaseline =>
    obtain ⟨rfl, rfl⟩ := yields_pure.mp h
    exact .rest (.armed hlook hbaseline)
  case h_2 baseline hbaseline =>
    by_cases hseen : seen = baseline ∨ some seen = w.failed
    · rw [if_pos hseen] at h
      obtain ⟨rfl, rfl⟩ := yields_pure.mp h
      exact .rest (.settled hlook hbaseline hseen)
    · have hcall : w.CallsFor seen :=
        ⟨baseline, hbaseline, fun heq => hseen (.inl heq), fun heq => hseen (.inr heq)⟩
      rw [if_neg hseen] at h
      cases hscene : c.scene.isMap with
      | false =>
        simp only [hscene, Bool.false_eq_true, if_false] at h
        obtain ⟨rfl, rfl⟩ := yields_pure.mp h
        exact .rest (.deferred hlook hcall hscene)
      | true =>
        simp only [hscene, if_true, yields_bind, yields_pure] at h
        obtain ⟨t₁, s₂, hreload, rfl, rfl⟩ := h
        exact .reload hlook hcall hscene (reload_exits hreload)

/-- **Every tick takes one of the twelve ways out.** -/
theorem tick_exits {w : ReloadWatcher} {c : FieldContext} {s s' : σ} {t : ReloadTick}
    (h : Yields (w.tick c) s t s') : w.Exits c s t s' := by
  simp only [tick] at h
  by_cases henabled : w.config.enabled = true
  · simp only [henabled, Bool.not_true, Bool.false_eq_true, if_false, yields_bind] at h
    obtain ⟨asked, s₁, hprobe, h⟩ := h
    by_cases hasked : asked = true ∨ w.retry = true
    · have hgo : ¬ ((!asked && !w.retry) = true) := by
        rcases hasked with hasked | hasked <;> simp [hasked]
      rw [if_neg hgo] at h
      obtain ⟨answer, s₂, hstat, h⟩ := yields_bind.mp h
      have hlook := Looks.intro henabled hprobe hasked hstat
      cases answer with
      | error fault =>
        obtain ⟨rfl, rfl⟩ := yields_pure.mp h
        exact .rest (.unstatted hlook)
      | ok seen => exact react_exits hlook h
    · obtain ⟨hasked, hretry⟩ := not_or.mp hasked
      rw [Bool.not_eq_true] at hasked hretry
      simp only [hasked, hretry, Bool.not_false, Bool.and_self, if_true] at h
      obtain ⟨rfl, rfl⟩ := yields_pure.mp h
      subst hasked
      exact .rest (.unasked hprobe hretry)
  · rw [Bool.not_eq_true] at henabled
    simp only [henabled, Bool.not_false, if_true] at h
    obtain ⟨rfl, rfl⟩ := yields_pure.mp h
    exact .rest (.disabled henabled)

/-- Conversely, a confirmed snapshot is committed by a reload. -/
theorem Confirms.yields_reload {w : ReloadWatcher} {c : FieldContext} {seen : Stamp}
    {snapshot : Snapshot} {s s₁ s' : σ} {t : ReloadTick} (hconfirm : w.Confirms c s snapshot s₁)
    (h : Yields (w.commit c seen snapshot) s₁ t s') : Yields (w.reload c seen) s t s' := by
  obtain ⟨⟨hpause, hbefore, hload⟩, hafter⟩ := hconfirm
  refine yields_bind.mpr ⟨(), _, hpause, yields_bind.mpr ⟨_, _, hbefore, ?_⟩⟩
  refine yields_bind.mpr ⟨_, _, hload, yields_bind.mpr ⟨_, _, hafter, ?_⟩⟩
  simp only [if_true]
  exact h

/-- Each of the six ways out is one that a reload takes. -/
theorem Reloads.yields_reload {w : ReloadWatcher} {c : FieldContext} {seen : Stamp} {s s' : σ}
    {t : ReloadTick} (h : w.Reloads c seen s t s') : Yields (w.reload c seen) s t s' := by
  cases h with
  | unreadableBefore hpause hbefore =>
    refine yields_bind.mpr ⟨(), _, hpause, yields_bind.mpr ⟨_, _, hbefore, ?_⟩⟩
    exact yields_pure.mpr ⟨rfl, rfl⟩
  | loadFailed hload =>
    obtain ⟨hpause, hbefore, hload⟩ := hload
    refine yields_bind.mpr ⟨(), _, hpause, yields_bind.mpr ⟨_, _, hbefore, ?_⟩⟩
    exact yields_bind.mpr ⟨_, _, hload, yields_pure.mpr ⟨rfl, rfl⟩⟩
  | unreadableAfter hload hafter =>
    obtain ⟨hpause, hbefore, hload⟩ := hload
    refine yields_bind.mpr ⟨(), _, hpause, yields_bind.mpr ⟨_, _, hbefore, ?_⟩⟩
    refine yields_bind.mpr ⟨_, _, hload, yields_bind.mpr ⟨_, _, hafter, ?_⟩⟩
    exact yields_pure.mpr ⟨rfl, rfl⟩
  | moved hload hafter hmoved =>
    obtain ⟨hpause, hbefore, hload⟩ := hload
    refine yields_bind.mpr ⟨(), _, hpause, yields_bind.mpr ⟨_, _, hbefore, ?_⟩⟩
    refine yields_bind.mpr ⟨_, _, hload, yields_bind.mpr ⟨_, _, hafter, ?_⟩⟩
    simp only [if_neg hmoved]
    exact yields_pure.mpr ⟨rfl, rfl⟩
  | sceneFailed hconfirm hscene =>
    exact hconfirm.yields_reload (yields_bind.mpr ⟨_, _, hscene, yields_pure.mpr ⟨rfl, rfl⟩⟩)
  | committed hconfirm hscene =>
    exact hconfirm.yields_reload (yields_bind.mpr ⟨_, _, hscene, yields_pure.mpr ⟨rfl, rfl⟩⟩)

/-- A watcher that looks and sees a time does in its tick what it does about that time. -/
theorem Looks.yields_tick {w : ReloadWatcher} {c : FieldContext} {seen : Stamp} {s s₁ s' : σ}
    {t : ReloadTick} (hlook : w.Looks c s (.ok seen) s₁) (h : Yields (w.react c seen) s₁ t s') :
    Yields (w.tick c) s t s' := by
  obtain @⟨asked, _, s₀, _, henabled, hprobe, hasked, hstat⟩ := hlook
  have hgo : ¬ ((!asked && !w.retry) = true) := by
    rcases hasked with hasked | hasked <;> simp [hasked]
  simp only [tick, henabled, Bool.not_true, Bool.false_eq_true, if_false, yields_bind]
  refine ⟨asked, s₀, hprobe, ?_⟩
  rw [if_neg hgo]
  exact yields_bind.mpr ⟨.ok seen, s₁, hstat, h⟩

/-- A time that calls for a reload gets one if the map is on screen. -/
theorem CallsFor.yields_react {w : ReloadWatcher} {c : FieldContext} {seen : Stamp} {s s' : σ}
    {t : ReloadTick} (hcall : w.CallsFor seen) (hscene : c.scene.isMap = true)
    (h : Yields ({ w with phase := .reloading }.reload c seen) s t s') :
    Yields (w.react c seen) s { t with watcher := { t.watcher with phase := .idle } } s' := by
  obtain ⟨baseline, hbaseline, hmoved, hfailed⟩ := hcall
  simp only [hbaseline] at h
  simp only [react, hbaseline, hmoved, hfailed, or_self, if_false, hscene, if_true, yields_bind,
    yields_pure]
  exact ⟨t, s', h, rfl, rfl⟩

end ReloadWatcher

end Overworld
