import Overworld.Proofs.Session.Course

/-!
# The grid that is shown

A reload draws the grid anew in the same frame, or hides the overlay, and every transfer hides it
first. So a grid that is shown was drawn from the live map as it has been since it was put in place,
however the calls of the host have ended.
-/

namespace Overworld

/-- A grid that was computed from one of these maps. -/
def CollisionGrid.DrawnFrom (g : CollisionGrid) (forms : List FieldMap) : Prop :=
  ∃ map ∈ forms, ∃ player, (playerGrid map player).1 = .ok g

/-- A grid is as large as the maps that it was computed from. -/
theorem playerGrid_size {map : FieldMap} {player : Player} {grid : CollisionGrid}
    (h : (playerGrid map player).1 = .ok grid) :
    grid.width = map.width ∧ grid.height = map.height := by
  rw [playerGrid_eq] at h
  cases h
  exact ⟨rfl, rfl⟩

/-- What an overlay shows is up to date: it was drawn in debug mode, in the present generation of
the data and from one of these maps. -/
structure Overlay.Current (o : Overlay) (c : FieldContext) (forms : List FieldMap) : Prop where
  debug : c.debug = true
  generation_eq : o.generation = c.generation
  grid : ∃ grid, o.grid = some grid ∧ grid.DrawnFrom forms

/-- An overlay leaves the loaded data and its generation. -/
theorem Overlay.Leaves.data_eq {c c' : FieldContext} (h : Leaves c c') :
    c'.snapshot = c.snapshot ∧ c'.generation = c.generation := by
  cases h <;> exact ⟨rfl, rfl⟩

/-- Behind the tick of the watcher, an overlay does not go on showing what is out of date. -/
theorem Overlay.HookExits.current {o : Overlay} {input : Input} {c c' : FieldContext}
    {hooked : Hooked Overlay} {forms : List FieldMap} (h : o.HookExits input c' hooked)
    (hwatched : Session.Watched c c') (hcurrent : o.enabled = true → o.Current c forms)
    (hlive : c.snapshot.map ∈ forms) (henabled : hooked.plugin.enabled = true) :
    hooked.plugin.Current hooked.context
      (if hooked.context.generation = c.generation then forms
        else [hooked.context.snapshot.map]) := by
  cases h with
  | asleep hasleep =>
    obtain ⟨hdebug, hgeneration, hgrid⟩ := hcurrent henabled
    have hsame : c'.generation = c.generation := by
      by_contra hreloaded
      exact absurd (hasleep.symm.trans (hwatched.awake hdebug hreloaded)) (by decide)
    exact ⟨hwatched.debug_eq.trans hdebug, hgeneration.trans hsame.symm, by rwa [if_pos hsame]⟩
  | kept _ hfresh =>
    obtain ⟨hsame, hgrid, hgeneration⟩ := o.follow_shown c'.snapshot.map
    rw [hsame] at henabled
    obtain ⟨hdebug, hgeneration', grid, hgrid', hdrawn⟩ := hcurrent henabled
    have hkept : c'.generation = c.generation := (hfresh henabled).symm.trans hgeneration'
    refine ⟨hwatched.debug_eq.trans hdebug, hgeneration.trans (hfresh henabled), grid,
      hgrid.trans hgrid', ?_⟩
    rwa [if_pos hkept]
  | hid =>
    rw [(o.hide.follow_shown c'.snapshot.map).1] at henabled
    cases henabled
  | refused _ _ hhidden => exact absurd (henabled.symm.trans hhidden) (by decide)
  | showed _ _ hdebug hgrid _ hshown hgeneration =>
    refine ⟨hdebug, hgeneration, _, hshown, c'.snapshot.map, ?_, _, hgrid⟩
    show c'.snapshot.map ∈ if c'.generation = c.generation then forms else [c'.snapshot.map]
    split
    case isTrue hsame => rwa [hwatched.kept hsame]
    case isFalse => exact List.mem_singleton_self _

namespace Session

/-- In a session with these plugins the overlay shows nothing that is out of date: if it is shown it
is up to date with the forms of the live map, which all have the tiles of the live one. -/
structure UpToDate (w : ReloadWatcher) (o : Overlay) (s : Session Empty) (forms : List FieldMap) :
    Prop where
  plugins_eq : s.plugins = [.reload w, .overlay o]
  current : o.enabled = true → o.Current s.context forms
  live_mem : s.context.snapshot.map ∈ forms
  ground_eq : ∀ map ∈ forms, map.ground = s.context.snapshot.map.ground

section

variable {w : ReloadWatcher} {o : Overlay} {s s' : Session Empty} {forms : List FieldMap}

/-- A hidden overlay shows nothing that is out of date. -/
theorem UpToDate.hidden (hplugins : s.plugins = [.reload w, .overlay o])
    (hhidden : o.enabled = false) : UpToDate w o s [s.context.snapshot.map] where
  plugins_eq := hplugins
  current henabled := absurd (henabled.symm.trans hhidden) (by decide)
  live_mem := List.mem_singleton_self _
  ground_eq _ hmap := congrArg _ (List.mem_singleton.mp hmap)

/-- After a change in place the live map has one form more. -/
theorem UpToDate.inPlace (h : UpToDate w o s forms) (hplace : s.InPlace s') :
    UpToDate w o s' (s'.context.snapshot.map :: forms) where
  plugins_eq := hplace.plugins_eq.trans h.plugins_eq
  current henabled := by
    obtain ⟨hdebug, hgeneration, grid, hgrid, map, hmap, hdrawn⟩ := h.current henabled
    exact ⟨hplace.debug_eq.trans hdebug, hgeneration.trans hplace.generation_eq.symm, grid, hgrid,
      map, List.mem_cons_of_mem _ hmap, hdrawn⟩
  live_mem := List.mem_cons_self
  ground_eq map hmap := by
    rcases List.mem_cons.mp hmap with rfl | hmap
    · rfl
    · exact (h.ground_eq map hmap).trans hplace.ground_eq.symm

/-- Where the live map, the mode and the generation stay, nothing comes to be out of date. -/
theorem UpToDate.of_same (h : UpToDate w o s forms) (hplugins : s'.plugins = s.plugins)
    (hmap : s'.context.snapshot.map = s.context.snapshot.map)
    (hdebug : s'.context.debug = s.context.debug)
    (hgeneration : s'.context.generation = s.context.generation) : UpToDate w o s' forms where
  plugins_eq := hplugins.trans h.plugins_eq
  current henabled := by
    obtain ⟨hdebug', hgeneration', hgrid⟩ := h.current henabled
    exact ⟨hdebug.trans hdebug', hgeneration'.trans hgeneration.symm, hgrid⟩
  live_mem := hmap ▸ h.live_mem
  ground_eq := hmap ▸ h.ground_eq

/-- After the hooks of a frame the overlay shows nothing that is out of date; a reload has put the
live map in place anew. -/
theorem UpToDate.looked {t : ReloadTick} (h : UpToDate w o s forms)
    (hwatched : Watched s.context t.context) (input : Input) :
    UpToDate t.watcher (o.onUpdate input t.context).plugin (s.looked (ownHooks o input t))
      (if (o.onUpdate input t.context).context.generation = s.context.generation then forms
        else [(o.onUpdate input t.context).context.snapshot.map]) := by
  obtain ⟨hsnapshot, hgeneration⟩ := (o.onUpdate_leaves input t.context).data_eq
  have hlive : (o.onUpdate input t.context).context.generation = s.context.generation →
      (o.onUpdate input t.context).context.snapshot.map = s.context.snapshot.map := by
    intro hsame
    rw [hsnapshot, hwatched.kept (hgeneration.symm.trans hsame)]
  refine ⟨rfl, (o.onUpdate_exits input t.context).current hwatched h.current h.live_mem, ?_, ?_⟩
  · show (o.onUpdate input t.context).context.snapshot.map ∈ _
    split
    case isTrue hsame => exact hlive hsame ▸ h.live_mem
    case isFalse => exact List.mem_singleton_self _
  · show ∀ map ∈ (_ : List FieldMap),
      map.ground = (o.onUpdate input t.context).context.snapshot.map.ground
    split
    case isTrue hsame => exact hlive hsame ▸ h.ground_eq
    case isFalse => exact fun map hmap => congrArg _ (List.mem_singleton.mp hmap)

variable {σ : Type} [DataSource (StateM σ)] [BitmapLoader (StateM σ)] {a b : σ}

/-- After a transfer nothing is shown. -/
theorem UpToDate.transferred {target : UInt32} {x y : Int} {result : Except Fault Unit}
    (h : UpToDate w o s forms) (htransfer : Yields (s.transfer target x y) a (result, s') b) :
    UpToDate w o.hide s' [s'.context.snapshot.map] :=
  .hidden (transfer_takesDown h.plugins_eq htransfer).plugins_eq rfl

/-- After a frame the overlay shows nothing that is out of date. -/
theorem UpToDate.updated {input : Input} {outcome : Except Fault TickOutcome}
    {hooks : HookRun (Extension Empty)} {a₁ : σ} (h : UpToDate w o s forms)
    (hhooks : Yields (Plugin.updateAll s.plugins input s.context) a hooks a₁)
    (hupdate : Yields (s.update input) a (outcome, s') b) :
    ∃ w' o', UpToDate w' o' s' (s.formsAfter hooks input s' forms) := by
  obtain ⟨t, a₂, htick, hown, hends⟩ := update_own h.plugins_eq hupdate
  obtain ⟨rfl, -⟩ := hown.unique hhooks
  have hlooked := h.looked (tick_watched htick) input
  rcases hends with ⟨hstays, hplace⟩ | ⟨hdeparts, hbefore, htransfer, hbehind⟩
  · have hend := hlooked.inPlace hplace
    exact ⟨_, _, by rwa [formsAfter, hstays, if_neg Bool.false_ne_true]⟩
  · have hthere := (hlooked.inPlace hbefore).transferred htransfer
    have hend := UpToDate.hidden (hbehind.plugins_eq.trans hthere.plugins_eq) rfl
    exact ⟨_, _, by rwa [formsAfter, hdeparts, if_pos rfl]⟩

omit [DataSource (StateM σ)] in
/-- A change of the scene leaves the live map, the mode and the generation. -/
theorem setScene_same {kind : SceneKind} {result : Except Fault Unit}
    (h : Yields (s.setScene kind) a (result, s') b) :
    s'.plugins = s.plugins ∧ s'.context.snapshot = s.context.snapshot ∧
      s'.context.debug = s.context.debug ∧ s'.context.generation = s.context.generation ∧
      s'.context.notices = s.context.notices := by
  cases kind with
  | map =>
    obtain ⟨built, bitmaps, -, hends⟩ := setScene_map h
    cases built with
    | error fault =>
      obtain ⟨-, rfl⟩ := hends
      exact ⟨rfl, rfl, rfl, rfl, rfl⟩
    | ok scene =>
      obtain ⟨-, rfl⟩ := hends
      exact ⟨rfl, rfl, rfl, rfl, rfl⟩
  | menu | battle | title =>
    simp only [setScene, yields_pair] at h
    obtain ⟨-, rfl, -⟩ := h
    exact ⟨rfl, rfl, rfl, rfl, rfl⟩

/-- Refusing tilemaps changes nothing about what is shown. -/
theorem UpToDate.refusing (h : UpToDate w o s forms) (refuses : Bool) :
    UpToDate w { o with canvas := { o.canvas with refusesTilemaps := refuses } }
      (s.refusingTilemaps refuses) forms where
  plugins_eq := by
    rw [refusingTilemaps, h.plugins_eq]
    rfl
  current := fun henabled => by
    obtain ⟨hdebug, hgeneration, hgrid⟩ := h.current henabled
    exact ⟨hdebug, hgeneration, hgrid⟩
  live_mem := h.live_mem
  ground_eq := h.ground_eq

variable {P : Session Empty → Input → Session Empty → Prop} {taken : NoticeBoard}

/-- In the course of a session the overlay never shows anything that is out of date. -/
theorem Course.upToDate (h : Course σ P s taken forms) : ∃ w o, UpToDate w o s forms := by
  induction h with
  | begun hplugins hhidden => exact ⟨_, _, .hidden hplugins hhidden⟩
  | updated _ hhooks h _ ih =>
    obtain ⟨w, o, hdate⟩ := ih
    exact hdate.updated hhooks h
  | transferred _ h ih =>
    obtain ⟨w, o, hdate⟩ := ih
    exact ⟨w, o.hide, hdate.transferred h⟩
  | sceneChanged _ h ih =>
    obtain ⟨w, o, hdate⟩ := ih
    obtain ⟨hplugins, hsnapshot, hdebug, hgeneration, -⟩ := setScene_same h
    exact ⟨w, o, hdate.of_same hplugins (congrArg _ hsnapshot) hdebug hgeneration⟩
  | eventStarted _ _ ih | eventCalled _ _ ih | noticesTaken _ ih =>
    obtain ⟨w, o, hdate⟩ := ih
    exact ⟨w, o, hdate.of_same rfl rfl rfl rfl⟩
  | switchSet _ name switch value ih =>
    obtain ⟨w, o, hdate⟩ := ih
    exact ⟨w, o, hdate.inPlace ⟨rfl, rfl, rfl, rfl, .single _ rfl⟩⟩
  | refusing _ refuses ih =>
    obtain ⟨w, o, hdate⟩ := ih
    exact ⟨w, _, hdate.refusing refuses⟩

end

end Session

end Overworld
