import Overworld.Session.Transfer
import Overworld.Proofs.Data.DataStream
import Overworld.Proofs.Map.Pages
import Overworld.Proofs.Reload.Exits

/-!
# What hooks do to pages

Outside the interpreter nothing writes a self switch. Whatever else happens in a session leaves
the pages of the live map and the request for a refresh as they are, or puts a new map in place
on which every event is on its due page.
-/

namespace Overworld

namespace FieldContext

/-- No refresh of the live map is lost. -/
def Tracks (c : FieldContext) : Prop := c.snapshot.map.Tracks c.switches

/-- Every event of the live map is on its due page, and no refresh is asked for. -/
def Refreshed (c : FieldContext) : Prop :=
  c.snapshot.map.needRefresh = false ∧ c.snapshot.map.PagesDue c.switches

/-- Two contexts with the same live map and switches, as far as pages go. -/
structure SamePages (c c' : FieldContext) : Prop where
  id_eq : c'.snapshot.map.id = c.snapshot.map.id
  events_eq : c'.snapshot.map.events = c.snapshot.map.events
  needRefresh_eq : c'.snapshot.map.needRefresh = c.snapshot.map.needRefresh
  switches_eq : c'.switches = c.switches

/-- What happens to pages outside the interpreter: nothing, or a new map is put in place. -/
def KeepsPages (c c' : FieldContext) : Prop := c.SamePages c' ∨ c'.Refreshed

section

variable {c c' c'' : FieldContext}

/-- A live map that has nothing to refresh loses no refresh. -/
theorem Refreshed.tracks (h : c.Refreshed) : c.Tracks := .inr h.2

/-- Where the live map and the switches are the same, the same pages are due. -/
theorem SamePages.pagesDue (hsame : c.SamePages c')
    (h : c.snapshot.map.PagesDue c.switches) : c'.snapshot.map.PagesDue c'.switches := by
  unfold FieldMap.PagesDue
  rw [hsame.id_eq, hsame.events_eq, hsame.switches_eq]
  exact h

/-- Where pages are kept no refresh is lost. -/
theorem KeepsPages.tracks (hkeeps : c.KeepsPages c') (h : c.Tracks) : c'.Tracks := by
  rcases hkeeps with hsame | hfresh
  · exact h.imp hsame.needRefresh_eq.trans hsame.pagesDue
  · exact hfresh.tracks

/-- Where pages are kept nothing comes to be refreshed. -/
theorem KeepsPages.refreshed (hkeeps : c.KeepsPages c') (h : c.Refreshed) : c'.Refreshed := by
  rcases hkeeps with hsame | hfresh
  · exact ⟨hsame.needRefresh_eq.trans h.1, hsame.pagesDue h.2⟩
  · exact hfresh

/-- Keeping pages twice keeps them. -/
theorem KeepsPages.trans (h : c.KeepsPages c') (h' : c'.KeepsPages c'') : c.KeepsPages c'' := by
  rcases h' with hsame' | hfresh
  · rcases h with hsame | hfresh
    · exact .inl ⟨hsame'.id_eq.trans hsame.id_eq, hsame'.events_eq.trans hsame.events_eq,
        hsame'.needRefresh_eq.trans hsame.needRefresh_eq,
        hsame'.switches_eq.trans hsame.switches_eq⟩
    · exact .inr (KeepsPages.refreshed (.inl hsame') hfresh)
  · exact .inr hfresh

/-- Doing nothing keeps pages. -/
theorem KeepsPages.refl (c : FieldContext) : c.KeepsPages c := .inl ⟨rfl, rfl, rfl, rfl⟩

end

end FieldContext

namespace Overlay

/-- What an overlay makes of a context: it looks at the map and takes hold of the player, and it
tells the host of a change of what is shown. -/
inductive Leaves (c : FieldContext) : FieldContext → Prop
  | silent (player : Player) : Leaves c { c with player }
  | shown (player : Player) (map : UInt32) (blocked : Nat) :
      Leaves c ({ c with player }.notify (.overlayShown map blocked))
  | hidden : Leaves c (c.notify .overlayHidden)

variable {c c' : FieldContext}

/-- Showing the overlay leaves the context so. -/
theorem presentCurrent_leaves (o : Overlay) (c : FieldContext) :
    Leaves c (o.presentCurrent c).context := by
  unfold presentCurrent
  split
  · exact .silent _
  · exact .shown ..

/-- The frame hook leaves the context so. -/
theorem onUpdate_leaves (o : Overlay) (input : Input) (c : FieldContext) :
    Leaves c (o.onUpdate input c).context := by
  have hreact : Leaves c (o.react input c).context := by
    unfold react toggle
    split
    · split
      · exact .hidden
      · exact o.presentCurrent_leaves c
    · split
      · exact o.presentCurrent_leaves c
      · exact .silent c.player
  unfold onUpdate
  split
  · simp only
    split <;> exact hreact
  · exact .silent c.player

/-- The transfer hook leaves the context so. -/
theorem onTransfer_leaves (o : Overlay) (c : FieldContext) : Leaves c (o.onTransfer c).context := by
  unfold onTransfer
  simp only
  split
  · exact .hidden
  · exact .silent c.player

/-- An overlay keeps pages. -/
theorem Leaves.keepsPages (h : Leaves c c') : c.KeepsPages c' := by
  cases h <;> exact .inl ⟨rfl, rfl, rfl, rfl⟩

/-- An overlay leaves the layout alone. -/
theorem Leaves.layout_eq (h : Leaves c c') : c'.layout = c.layout := by
  cases h <;> rfl

end Overlay

section

variable {σ : Type} [DataSource (StateM σ)]

/-- A loaded snapshot has every event on its due page, and asks for no refresh. -/
theorem Snapshot.load_pagesDue {layout : DataLayout} {map : UInt32} {switches : SelfSwitches}
    {snapshot : Snapshot} {s s' : σ}
    (h : Yields (Snapshot.load layout map switches).run s (.ok snapshot) s') :
    snapshot.map.PagesDue switches ∧ snapshot.map.needRefresh = false := by
  obtain ⟨tables, ⟨rfl, rfl⟩ | ⟨record, rfl⟩⟩ := Snapshot.load_ok h
  · exact ⟨FieldMap.empty_pagesDue switches, rfl⟩
  · exact FieldMap.ofRecord_pagesDue map record tables.tilesets switches

/-- Registering a watcher only observes. -/
theorem ReloadWatcher.onBuild_context {w : ReloadWatcher} {c : FieldContext}
    {hooked : Hooked ReloadWatcher} {s s' : σ} (h : Yields (w.onBuild c) s hooked s') :
    hooked.context = c := by
  simp only [onBuild, yields_bind, yields_pure] at h
  obtain ⟨probe, s₁, -, armed, s₂, -, rfl, rfl⟩ := h
  rfl

variable [BitmapLoader (StateM σ)]

/-- A tick of the reload watcher keeps pages, or puts a loaded map in place. -/
theorem ReloadWatcher.tick_keepsPages {w : ReloadWatcher} {c : FieldContext} {t : ReloadTick}
    {s s' : σ} (h : Yields (w.tick c) s t s') : c.KeepsPages t.context := by
  cases tick_exits h with
  | rest hrest => cases hrest <;> exact .refl c
  | reload _ _ _ hreload =>
    cases hreload with
    | committed hconfirm =>
      obtain ⟨⟨-, -, hload⟩, -⟩ := hconfirm
      obtain ⟨hdue, hneed⟩ := Snapshot.load_pagesDue hload
      exact .inr ⟨hneed, hdue⟩
    | _ => exact .inl ⟨rfl, rfl, rfl, rfl⟩

namespace Extension

variable {plugin : Extension Empty} {c : FieldContext} {hooked : Hooked (Extension Empty)} {s s' : σ}

/-- The registration of a session's own plugin keeps pages. -/
theorem build_keepsPages (h : Yields (Plugin.build plugin c) s hooked s') :
    c.KeepsPages hooked.context := by
  cases plugin with
  | reload w =>
    obtain ⟨part, hpart, rfl⟩ := yields_map.mp h
    exact ReloadWatcher.onBuild_context hpart ▸ .refl c
  | overlay o =>
    obtain ⟨rfl, -⟩ := yields_pure.mp h
    exact .refl c
  | custom p => exact p.elim

/-- The frame hook of a watcher is a tick. -/
theorem yields_update_reload {ε : Type} [Plugin (StateM σ) ε] {w : ReloadWatcher} {input : Input}
    {hooked : Hooked (Extension ε)} :
    Yields (Plugin.update (.reload w : Extension ε) input c) s hooked s' ↔
      ∃ t, Yields (w.tick c) s t s' ∧
        hooked = { result := t.result.map fun _ => (), plugin := .reload t.watcher
                   context := t.context } := by
  constructor
  · intro h
    obtain ⟨part, hpart, rfl⟩ := yields_map.mp h
    simp only [ReloadWatcher.onUpdate, yields_bind, yields_pure] at hpart
    obtain ⟨t, s₁, htick, rfl, rfl⟩ := hpart
    exact ⟨t, htick, rfl⟩
  · rintro ⟨t, htick, rfl⟩
    have hhook : Yields (w.onUpdate c) s _ s' :=
      yields_bind.mpr ⟨t, s', htick, yields_pure.mpr ⟨rfl, rfl⟩⟩
    exact yields_map.mpr ⟨_, hhook, rfl⟩

/-- The frame hook of a session's own plugin keeps pages. -/
theorem update_keepsPages {input : Input} (h : Yields (Plugin.update plugin input c) s hooked s') :
    c.KeepsPages hooked.context := by
  cases plugin with
  | reload w =>
    obtain ⟨t, htick, rfl⟩ := yields_update_reload.mp h
    exact ReloadWatcher.tick_keepsPages htick
  | overlay o =>
    obtain ⟨rfl, -⟩ := yields_pure.mp h
    exact (o.onUpdate_leaves input c).keepsPages
  | custom p => exact p.elim

/-- The transfer hook of a session's own plugin keeps pages. -/
theorem onTransfer_keepsPages {source target : UInt32}
    (h : Yields (Plugin.onTransfer plugin source target c) s hooked s') :
    c.KeepsPages hooked.context := by
  cases plugin with
  | reload w =>
    obtain ⟨rfl, -⟩ := yields_pure.mp h
    exact .refl c
  | overlay o =>
    obtain ⟨rfl, -⟩ := yields_pure.mp h
    exact (o.onTransfer_leaves c).keepsPages
  | custom p => exact p.elim

end Extension

end

end Overworld
