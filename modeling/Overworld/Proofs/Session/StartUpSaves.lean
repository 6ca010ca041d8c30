import Mathlib
import Overworld.Proofs.Session.Clock
import Overworld.Proofs.Session.Course
import Overworld.Proofs.Session.Parts
import Overworld.Session.Run

/-!
# Saves during the start of a session

A reload takes the marker's time before it loads anything, and remembers that time as the one that
the new data go with. The start of a session does it the other way around: it loads the data first,
and the watcher takes the marker's time when it is registered, or even later if the marker cannot be
looked at by then. So a save that falls in between is lost: the watcher takes its time for that of
the data that were loaded before it. No other save is.
-/

namespace Overworld

namespace Chronicle

/-- The saves of an editor, as they show in the answers of a data source. Each gives the marker a
time that it has never had before. -/
structure Saves {σ : Type} [DataSource (StateM σ)] [BitmapLoader (StateM σ)] (ch : Chronicle σ)
    (marker : FilePath) where
  /-- The time that the marker has at an instant, if it can be looked at. -/
  stamped : Nat → Option Stamp
  /-- A time that the marker has at two instants it has had all the while. -/
  stamped_fresh {first middle last : Nat} {stamp other : Stamp} : first ≤ middle → middle ≤ last →
    stamped first = some stamp → stamped middle = some other → stamped last = some stamp →
      other = stamp
  /-- A look at the marker that succeeds gives the time that it has at an instant of the look. -/
  modified_at {seen : Stamp} {s s' : σ} : Yields (DataSource.modified marker) s (.ok seen) s' →
    ∃ instant, ch.clock s ≤ instant ∧ instant ≤ ch.clock s' ∧ stamped instant = some seen

end Chronicle

/-- The load that has given the running data: from which instant to which it went on, and whether
it is that of the start of the session. -/
structure Loading where
  atStart : Bool
  first : Nat
  last : Nat

namespace ReloadWatcher

variable {σ : Type} [DataSource (StateM σ)] {w : ReloadWatcher} {c : FieldContext} {seen : Stamp}
  {t : ReloadTick} {s s₁ s' : σ}

/-- A look has one answer in given surroundings. -/
theorem Looks.unique {answer answer' : Except Fault Stamp} {s₂ : σ} (h : w.Looks c s answer s₁)
    (h' : w.Looks c s answer' s₂) : answer' = answer ∧ s₂ = s₁ := by
  obtain ⟨-, hprobe, -, hstat⟩ := h
  obtain ⟨-, hprobe', -, hstat'⟩ := h'
  obtain ⟨-, rfl⟩ := hprobe.unique hprobe'
  exact hstat.unique hstat'

variable [BitmapLoader (StateM σ)]

/-- A tick tries to reload because of the marker time `seen`. -/
inductive TriesReload (w : ReloadWatcher) (c : FieldContext) (seen : Stamp) (s : σ) :
    ReloadTick → σ → Prop
  | intro {t : ReloadTick} {s₁ s' : σ} (hlook : w.Looks c s (.ok seen) s₁)
      (hreload : Yields ({ w with phase := .reloading }.reload c seen) s₁ t s') :
      TriesReload w c seen s { t with watcher := { t.watcher with phase := .idle } } s'

/-- A tick that tries to reload does not say that nothing has changed. -/
theorem TriesReload.result_ne (h : w.TriesReload c seen s t s') : t.result ≠ .ok .unchanged := by
  obtain ⟨-, hreload⟩ := h
  cases reload_exits hreload <;> simp [rejectUnreadable, reject, abandon]

/-- A tick that sees a time that calls for a reload, with the map on screen, tries to reload. -/
theorem Looks.triesReload (hlook : w.Looks c s (.ok seen) s₁) (hcall : w.CallsFor seen)
    (hscene : c.scene.isMap = true) (h : Yields (w.tick c) s t s') :
    w.TriesReload c seen s t s' := by
  have hreload := yields_run ({ w with phase := .reloading }.reload c seen) s₁
  obtain ⟨rfl, rfl⟩ := (hlook.yields_tick (hcall.yields_react hscene hreload)).unique h
  exact .intro hlook hreload

/-- A tick that sees the baseline, or has none yet, changes nothing. -/
theorem Looks.unchanged (hlook : w.Looks c s (.ok seen) s₁)
    (hbaseline : w.baseline = none ∨ w.baseline = some seen) (h : Yields (w.tick c) s t s') :
    t.result = .ok .unchanged ∧ t.context = c := by
  have hreact : ∃ w', Yields (w.react c seen) s₁
      { result := .ok .unchanged, watcher := w', context := c } s₁ := by
    unfold react
    rcases hbaseline with hbaseline | hbaseline <;> rw [hbaseline]
    · exact ⟨_, yields_pure.mpr ⟨rfl, rfl⟩⟩
    · simp only [true_or, if_true]
      exact ⟨_, yields_pure.mpr ⟨rfl, rfl⟩⟩
  obtain ⟨w', hreact⟩ := hreact
  obtain ⟨rfl, -⟩ := (hlook.yields_tick hreact).unique h
  exact ⟨rfl, rfl⟩

/-- No tick touches the layout. -/
theorem tick_layout (h : Yields (w.tick c) s t s') : t.context.layout = c.layout := by
  cases tick_exits h with
  | rest hrest => cases hrest <;> rfl
  | reload _ _ _ hreload => cases hreload <;> rfl

/-- What a tick makes of the load of the running data. If it commits, they are those of its own
load. -/
inductive Reloaded (ch : Chronicle σ) (w : ReloadWatcher) (c : FieldContext) (s : σ)
    (t : ReloadTick) : Loading → Loading → Prop
  | kept {loading : Loading} (h : t.result ≠ .ok .committed) : Reloaded ch w c s t loading loading
  | renewed {loading : Loading} {seen : Stamp} {print : Option Fingerprint} {snapshot : Snapshot}
      {s₁ s₂ s₃ s₄ : σ} (h : t.result = .ok .committed) (hlook : w.Looks c s (.ok seen) s₁)
      (hpause : Yields (DataSource.pause w.config.graceMs) s₁ () s₂)
      (hbefore : Yields (w.checkpoint c) s₂ (.ok print) s₃)
      (hload : Yields (Snapshot.load c.layout c.mapId c.switches).run s₃ (.ok snapshot) s₄) :
      Reloaded ch w c s t loading ⟨false, ch.clock s₃, ch.clock s₄⟩

variable {ch : Chronicle σ} {marker : FilePath} {loading loading' : Loading} {now later : Nat}

/-- The ways in which the baseline of a watcher goes with the running data. Only behind the start of
a session it can be a time that the marker got after the load, or be missing. -/
inductive Baseline (saves : ch.Saves marker) (loading : Loading) (now : Nat) :
    Option Stamp → Prop
  | missing (hstart : loading.atStart = true) : Baseline saves loading now none
  | afterStart {instant : Nat} {baseline : Stamp} (hstart : loading.atStart = true)
      (hlast : loading.last ≤ instant) (hnow : instant ≤ now)
      (hstamped : saves.stamped instant = some baseline) :
      Baseline saves loading now (some baseline)
  | beforeLoad {instant : Nat} {baseline : Stamp} (hfirst : instant ≤ loading.first)
      (hstamped : saves.stamped instant = some baseline) :
      Baseline saves loading now (some baseline)

variable {saves : ch.Saves marker}

/-- A baseline goes on to go with the running data. -/
theorem Baseline.mono {baseline : Option Stamp} (h : Baseline saves loading now baseline)
    (hnow : now ≤ later) : Baseline saves loading later baseline := by
  cases h with
  | missing hstart => exact .missing hstart
  | afterStart hstart hlast hinstant hstamped =>
    exact .afterStart hstart hlast (Nat.le_trans hinstant hnow) hstamped
  | beforeLoad hfirst hstamped => exact .beforeLoad hfirst hstamped

/-- A watcher at work: it looks at the marker, no time has failed, the running data have been loaded
by now, and the baseline goes with them. -/
structure Watching (w : ReloadWatcher) (saves : ch.Saves marker) (c : FieldContext)
    (loading : Loading) (now : Nat) : Prop where
  marker_eq : c.layout.tablePath w.marker = marker
  unfailed : w.failed = none
  last_le : loading.last ≤ now
  baseline : Baseline saves loading now w.baseline

/-- A watcher at work stays at work while time goes on. -/
theorem Watching.lasts {c' : FieldContext} (hwatch : w.Watching saves c loading now)
    (hlayout : c'.layout = c.layout) (hnow : now ≤ later) :
    w.Watching saves c' loading later := by
  refine ⟨hlayout ▸ hwatch.marker_eq, hwatch.unfailed, ?_, hwatch.baseline.mono hnow⟩
  exact Nat.le_trans hwatch.last_le hnow

/-- A look that sees a time sees one that the marker has during the look. -/
theorem Watching.seen_at (hwatch : w.Watching saves c loading now)
    (hlook : w.Looks c s (.ok seen) s₁) :
    ∃ instant, ch.clock s ≤ instant ∧ instant ≤ ch.clock s₁ ∧
      saves.stamped instant = some seen := by
  obtain ⟨-, hprobe, -, hstat⟩ := hlook
  rw [hwatch.marker_eq] at hstat
  obtain ⟨instant, hstart, hend, hstamped⟩ := saves.modified_at hstat
  have hasked := ch.forward_shouldLook _ _ _ _ hprobe
  exact ⟨instant, by omega, hend, hstamped⟩

/-- A tick that puts a snapshot in place leaves the watcher at work: its new baseline is a time that
the marker had before the load. -/
theorem Watching.commit (hsteady : ch.Steady) (hwatch : w.Watching saves c loading now)
    (htick : Yields (w.tick c) s t s') (hcommitted : t.result = .ok .committed)
    (hloading : w.Reloaded ch c s t loading loading') :
    t.watcher.Watching saves t.context loading' (ch.clock s') := by
  obtain @⟨seen, _, _, _, _, s₁, s₂, s₃, s₄, s₅, _, hlook, hpause, hbefore, hload, hafter,
    hscene⟩ := tick_commits htick hcommitted
  cases hloading with
  | kept hother => exact absurd hcommitted hother
  | renewed _ hlook' hpause' hbefore' hload' =>
    obtain ⟨-, rfl⟩ := hlook.unique hlook'
    obtain ⟨-, rfl⟩ := hpause.unique hpause'
    obtain ⟨-, rfl⟩ := hbefore.unique hbefore'
    obtain ⟨-, rfl⟩ := hload.unique hload'
    obtain ⟨instant, -, hinstant, hstamped⟩ := hwatch.seen_at hlook
    have hpaused := ch.pause_forward _ _ _ _ hpause
    have hchecked := hsteady.forward_checkpoint _ _ _ _ _ hbefore
    have hagain := hsteady.forward_checkpoint _ _ _ _ _ hafter
    have hbuilt := ch.forward_build _ _ _ _ _ _ hscene
    have hearly := Nat.le_trans hinstant (Nat.le_trans hpaused hchecked)
    exact ⟨hwatch.marker_eq, rfl, Nat.le_trans hagain hbuilt, .beforeLoad hearly hstamped⟩

/-- **A tick leaves a watcher at work**, if its load does not fail. -/
theorem Watching.tick (hsteady : ch.Steady) (hwatch : w.Watching saves c loading now)
    (hnow : now ≤ ch.clock s) (htick : Yields (w.tick c) s t s')
    (hloaded : ∀ fault, t.result ≠ .error fault)
    (hloading : w.Reloaded ch c s t loading loading') :
    t.watcher.Watching saves t.context loading' (ch.clock s') := by
  by_cases hcommitted : t.result = .ok .committed
  · exact hwatch.commit hsteady htick hcommitted hloading
  · obtain rfl : loading' = loading := by
      cases hloading with
      | kept => rfl
      | renewed h => exact absurd h hcommitted
    have hend := hsteady.forward_tick _ _ _ _ _ htick
    have hlast : loading'.last ≤ ch.clock s' := by have := hwatch.last_le; omega
    have hbaseline := hwatch.baseline.mono (show now ≤ ch.clock s' by omega)
    cases tick_exits htick with
    | rest hrest =>
      cases hrest with
      | disabled | unasked | unstatted | settled | deferred =>
        exact ⟨hwatch.marker_eq, hwatch.unfailed, hlast, hbaseline⟩
      | armed hlook hbare =>
        -- Only behind the start of the session there is no baseline yet.
        obtain ⟨instant, hstart, hinstant, hstamped⟩ := hwatch.seen_at hlook
        have hopen := hwatch.baseline
        rw [hbare] at hopen
        cases hopen with
        | missing hatStart =>
          have hafter : loading'.last ≤ instant := by have := hwatch.last_le; omega
          exact ⟨hwatch.marker_eq, hwatch.unfailed, hlast,
            .afterStart hatStart hafter hinstant hstamped⟩
    | reload _ _ _ hreload =>
      cases hreload with
      | unreadableBefore | unreadableAfter | moved =>
        exact ⟨hwatch.marker_eq, hwatch.unfailed, hlast, hbaseline⟩
      | loadFailed | sceneFailed => exact absurd rfl (hloaded _)
      | committed => exact absurd rfl hcommitted

/-- The watcher takes `seen` for the time of the data that were loaded at start, although it takes
the marker's time only after that load: in this tick, or since it has a baseline. -/
structure ArmedLate (w : ReloadWatcher) (saves : ch.Saves marker) (loading : Loading) (now : Nat)
    (seen : Stamp) : Prop where
  atStart : loading.atStart = true
  baseline : w.baseline = none ∨ w.baseline = some seen ∧
    ∃ instant, loading.last ≤ instant ∧ instant ≤ now ∧ saves.stamped instant = some seen

/-- A watcher at work that sees another time than the marker had when the running data were loaded
tries to reload, if it has not taken that time for theirs. -/
theorem Watching.tries_or_armedLate {instant : Nat} {before : Stamp}
    (hwatch : w.Watching saves c loading now) (hnow : now ≤ ch.clock s)
    (hscene : c.scene.isMap = true) (hlook : w.Looks c s (.ok seen) s₁)
    (htick : Yields (w.tick c) s t s') (hfirst : loading.first ≤ instant)
    (hlast : instant ≤ loading.last) (hbefore : saves.stamped instant = some before)
    (hmoved : before ≠ seen) :
    w.TriesReload c seen s t s' ∨
      w.ArmedLate saves loading now seen ∧ t.result = .ok .unchanged ∧ t.context = c := by
  have htries {baseline : Stamp} (hbaseline : w.baseline = some baseline)
      (hother : seen ≠ baseline) : w.TriesReload c seen s t s' := by
    have hfailed : some seen ≠ w.failed := by rw [hwatch.unfailed]; exact Option.some_ne_none _
    exact hlook.triesReload ⟨baseline, hbaseline, hother, hfailed⟩ hscene htick
  have hgoes := hwatch.baseline
  cases hbaseline : w.baseline with
  | none =>
    rw [hbaseline] at hgoes
    cases hgoes with
    | missing hstart =>
      exact .inr ⟨⟨hstart, .inl hbaseline⟩, hlook.unchanged (.inl hbaseline) htick⟩
  | some baseline =>
    rw [hbaseline] at hgoes
    by_cases hsame : seen = baseline
    · subst hsame
      cases hgoes with
      | afterStart hstart hafter hinstant hstamped =>
        exact .inr ⟨⟨hstart, .inr ⟨hbaseline, _, hafter, hinstant, hstamped⟩⟩,
          hlook.unchanged (.inr hbaseline) htick⟩
      | beforeLoad hearly hstamped =>
        -- The marker has the baseline before and after the load, so it has it all the while.
        obtain ⟨later, hlater, -, hagain⟩ := hwatch.seen_at hlook
        have hloaded := hwatch.last_le
        exact absurd (saves.stamped_fresh (by omega) (by omega) hstamped hbefore hagain) hmoved
    · exact .inl (htries hbaseline hsame)

/-- A watcher that is registered behind the start of a session is at work. -/
theorem onBuild_watching {config : ReloadConfig} {kind : TableKind} {part : Hooked ReloadWatcher}
    (hsteady : ch.Steady) (hmarker : c.layout.tablePath kind = marker)
    (hstart : loading.atStart = true) (hlast : loading.last ≤ ch.clock s)
    (h : Yields (onBuild { config, marker := kind } c) s part s') :
    part.plugin.Watching saves c loading (ch.clock s') := by
  simp only [onBuild, yields_bind, yields_pure] at h
  obtain ⟨probe, s₁, hprobe, ⟨result, armed⟩, s₂, harm, rfl, rfl⟩ := h
  have hobserved := hsteady.forward_ofMode _ _ _ _ _ hprobe
  simp only [arm, yields_bind] at harm
  obtain ⟨answer, s₃, hstat, harm⟩ := harm
  have hstatted := ch.modified_forward _ _ _ _ hstat
  cases answer with
  | error fault =>
    obtain ⟨-, rfl, rfl⟩ := yields_pair.mp harm
    exact ⟨hmarker, rfl, by omega, .missing hstart⟩
  | ok seen =>
    obtain ⟨-, rfl, rfl⟩ := yields_pair.mp harm
    rw [hmarker] at hstat
    obtain ⟨instant, hafter, hbefore, hstamped⟩ := saves.modified_at hstat
    exact ⟨hmarker, rfl, by omega, .afterStart hstart (by omega) hbefore hstamped⟩

end ReloadWatcher

namespace Session

variable {σ : Type} [DataSource (StateM σ)] [BitmapLoader (StateM σ)]

/-- No part of a frame touches the layout. -/
theorem frameParts_layout :
    FrameParts σ Empty fun c c' => c'.layout = c.layout where
  refl _ := rfl
  trans h h' := h'.trans h
  screen _ _ _ _ := rfl
  scroll _ := rfl
  enter _ _ _ := rfl
  arrived _ _ _ _ _ := rfl
  transferHook {plugin _ _ _ _ _ _} h := by
    cases plugin with
    | reload w => exact (yields_pure.mp h).1 ▸ rfl
    | overlay o =>
      obtain ⟨rfl, -⟩ := yields_pure.mp h
      exact (o.onTransfer_leaves _).layout_eq
    | custom p => exact p.elim
  refresh _ := rfl
  interpret s := by
    unfold runInterpreter
    split <;> rfl
  updateHook {plugin _ _ _ _ _} h := by
    cases plugin with
    | reload w =>
      obtain ⟨t, htick, rfl⟩ := Extension.yields_update_reload.mp h
      exact ReloadWatcher.tick_layout htick
    | overlay o =>
      obtain ⟨rfl, -⟩ := yields_pure.mp h
      exact (o.onUpdate_leaves ..).layout_eq
    | custom p => exact p.elim

variable {ch : Chronicle σ} {config : FieldConfig} {layout : DataLayout} {s s' : Session Empty}
  {w : ReloadWatcher} {o : Overlay} {loading : Loading} {now : Nat} {t : ReloadTick}

/-- A frame leaves the watcher as its tick leaves it. -/
theorem update_watcher (hsteady : ch.Steady) {input : Input}
    {outcome : Except Fault TickOutcome} {a a₁ b : σ}
    (hplugins : s.plugins = [.reload w, .overlay o])
    (htick : Yields (w.tick s.context) a t a₁) (h : Yields (s.update input) a (outcome, s') b) :
    ch.clock a₁ ≤ ch.clock b ∧ s'.context.layout = t.context.layout ∧
      ∃ o', s'.plugins = [.reload t.watcher, .overlay o'] := by
  have hlayout : s'.context.layout = s.context.layout := frameParts_layout.update h
  obtain ⟨t', a₂, htick', hhooks, hends⟩ := update_own hplugins h
  obtain ⟨rfl, rfl⟩ := htick.unique htick'
  refine ⟨hsteady.clock_le_behind_hooks hhooks h,
    hlayout.trans (ReloadWatcher.tick_layout htick).symm, ?_⟩
  rcases hends with ⟨-, hplace⟩ | ⟨-, hbefore, htransfer, hbehind⟩
  · exact ⟨_, hplace.plugins_eq⟩
  · have htaken := transfer_takesDown hbefore.plugins_eq htransfer
    exact ⟨_, hbehind.plugins_eq.trans htaken.plugins_eq⟩

/-- The lives of sessions with their own plugins, while time goes on and files are written to. A
session is started with given settings on a given data set and then registers its plugins; it plays
frames in which no load fails, and between them its host does anything that leaves the watcher and
the layout alone. `loading` is the load that has given the running data, and `now` an instant that
has come. -/
inductive Life (ch : Chronicle σ) (config : FieldConfig) (layout : DataLayout) :
    Session Empty → Loading → Nat → Prop
  | begun {s s' : Session Empty} {debug : Bool} {a a' b b' : σ}
      (hstart : Yields (Session.start config layout debug) a (.ok s) a')
      (hclock : ch.clock a' ≤ ch.clock b)
      (hplugins : Yields s.withOwnPlugins b (.ok (), s') b') :
      Life ch config layout s' ⟨true, ch.clock a, ch.clock a'⟩ (ch.clock b')
  | updated {s s' : Session Empty} {w : ReloadWatcher} {o : Overlay} {loading loading' : Loading}
      {now : Nat} {input : Input} {outcome : Except Fault TickOutcome} {t : ReloadTick}
      {a a₁ b : σ} (hs : Life ch config layout s loading now)
      (hplugins : s.plugins = [.reload w, .overlay o]) (hclock : now ≤ ch.clock a)
      (htick : Yields (w.tick s.context) a t a₁) (hloaded : ∀ fault, t.result ≠ .error fault)
      (hloading : w.Reloaded ch s.context a t loading loading')
      (h : Yields (s.update input) a (outcome, s') b) :
      Life ch config layout s' loading' (ch.clock b)
  | passed {s s' : Session Empty} {w : ReloadWatcher} {o o' : Overlay} {loading : Loading}
      {now later : Nat} (hs : Life ch config layout s loading now)
      (hplugins : s.plugins = [.reload w, .overlay o])
      (hplugins' : s'.plugins = [.reload w, .overlay o'])
      (hlayout : s'.context.layout = s.context.layout) (hclock : now ≤ later) :
      Life ch config layout s' loading later

/-- In the life of a session its watcher is at work. -/
theorem Life.watching (hsteady : ch.Steady)
    (saves : ch.Saves (layout.tablePath config.data.markerKind))
    (h : Life ch config layout s loading now) :
    ∃ w o, s.plugins = [.reload w, .overlay o] ∧ w.Watching saves s.context loading now := by
  induction h with
  | begun hstart hclock hplugins =>
    obtain ⟨hbare, -, rfl, rfl⟩ := start_bare hstart
    obtain ⟨part, hpart, hown, hcontext⟩ := withOwnPlugins_exits hbare hplugins
    refine ⟨_, _, hown, ?_⟩
    rw [hcontext]
    exact ReloadWatcher.onBuild_watching hsteady rfl rfl hclock hpart
  | updated _ hplugins hclock htick hloaded hloading h ih =>
    obtain ⟨w, o, hown, hwatch⟩ := ih
    cases hplugins.symm.trans hown
    have hafter := hwatch.tick hsteady hclock htick hloaded hloading
    obtain ⟨hend, hlayout, o', hown'⟩ := update_watcher hsteady hplugins htick h
    exact ⟨_, o', hown', hafter.lasts hlayout hend⟩
  | passed _ hplugins hplugins' hlayout hclock ih =>
    obtain ⟨w, o, hown, hwatch⟩ := ih
    cases hplugins.symm.trans hown
    exact ⟨_, _, hplugins', hwatch.lasts hlayout hclock⟩

/-- **No save is lost but those between a start and its arming.** In the life of a session, however
the editor's saves fall in between, let a tick of the watcher see, with the map on screen, another
time of the marker than that of an instant of the load that has given the running data. Then the
tick tries to reload, unless the running data are those of the start and the watcher takes the time
that it sees for theirs because it has looked at the marker only after that load. In this case the
tick changes nothing, and the save is lost. -/
theorem Life.tries_reload (hsteady : ch.Steady)
    (saves : ch.Saves (layout.tablePath config.data.markerKind))
    (hlife : Life ch config layout s loading now) (hplugins : s.plugins = [.reload w, .overlay o])
    (hscene : s.context.scene.isMap = true) {seen before : Stamp} {instant : Nat} {a a₁ b : σ}
    (hclock : now ≤ ch.clock a) (hlook : w.Looks s.context a (.ok seen) a₁)
    (htick : Yields (w.tick s.context) a t b) (hfirst : loading.first ≤ instant)
    (hlast : instant ≤ loading.last) (hbefore : saves.stamped instant = some before)
    (hmoved : before ≠ seen) :
    w.TriesReload s.context seen a t b ∨
      w.ArmedLate saves loading now seen ∧ t.result = .ok .unchanged ∧ t.context = s.context := by
  obtain ⟨w', o', hown, hwatch⟩ := hlife.watching hsteady saves
  cases hplugins.symm.trans hown
  exact hwatch.tries_or_armedLate hclock hscene hlook htick hfirst hlast hbefore hmoved

end Session

/-- The surroundings of a data set that is saved once, at instant 8: the table of items gets a
number and the marker another time. Every look at a file takes an instant. -/
private structure Starting where
  now : Nat

/-- Where the files of the data set are. -/
private def startingLayout : DataLayout :=
  { tablePath := fun kind => ⟨kind.fileName⟩, mapPath := fun map => ⟨mapFileName map⟩
    watchRoot := none }

/-- What a file holds at an instant: an empty list, or a list of one number. -/
private def startingBytes (now : Nat) (path : FilePath) : Bytes :=
  if 8 ≤ now ∧ path = startingLayout.tablePath .items then [0x5B, 0x37, 0x5D] else [0x5B, 0x5D]

/-- The time of the marker at an instant. -/
private def startingStamp (now : Nat) : Stamp := { seconds := if now < 8 then 0 else 1 }

private instance : DataSource (StateM Starting) where
  read path := modifyGet fun s => (.ok (startingBytes s.now path), ⟨s.now + 1⟩)
  modified _ := modifyGet fun s => (.ok (startingStamp s.now), ⟨s.now + 1⟩)
  observe _ := return false
  noticed := return true
  pause _ := return ()

private instance : BitmapLoader (StateM Starting) := .blank

/-- What the files hold in the course of time. -/
private def startingChronicle : Chronicle Starting where
  clock s := s.now
  holds now path := some (startingBytes now path)
  length_lt := by
    rintro instant path _ ⟨⟩
    unfold startingBytes
    split_ifs <;> decide
  read_at := by
    rintro path bytes s s' h
    obtain ⟨hbytes, hs'⟩ := Prod.mk.inj h
    exact ⟨s.now, Nat.le_refl _, hs' ▸ Nat.le_succ _, congrArg some (Except.ok.inj hbytes)⟩
  modified_forward _ _ _ _ h := (Prod.mk.inj h).2 ▸ Nat.le_succ _
  noticed_forward := forward_pure _
  pause_forward _ := forward_pure _
  load_forward _ _ _ := forward_pure _

/-- No question turns the clock back. -/
private theorem startingChronicle_steady : startingChronicle.Steady where
  read_forward _ _ _ _ h := (Prod.mk.inj h).2 ▸ Nat.le_succ _
  observe_forward _ := forward_pure _

/-- The settings of a session that starts on the empty map. -/
private def startingConfig : FieldConfig :=
  { data := { startMap := 0 }, reload := { confirmFingerprint := false } }

/-- The only save gives the marker a time that it has from then on. -/
private def startingSaves :
    startingChronicle.Saves (startingLayout.tablePath startingConfig.data.markerKind) where
  stamped now := some (startingStamp now)
  stamped_fresh {first middle last stamp other} hmiddle hlast hfirst hother hsame := by
    simp only [startingStamp, Option.some.injEq] at hfirst hother hsame
    subst hfirst hother
    split_ifs at hsame ⊢ <;> first | rfl | omega
  modified_at := by
    rintro seen s s' h
    obtain ⟨hseen, hs'⟩ := Prod.mk.inj h
    exact ⟨s.now, Nat.le_refl _, hs' ▸ Nat.le_succ _, congrArg some (Except.ok.inj hseen)⟩

/-- The player's bitmap. -/
private def startingHero : Bitmap :=
  { width := 32, height := 32, source := "Graphics/Characters/hero" }

/-- The session that has started before the save. -/
private def startedSession : Session Empty :=
  { context :=
      { config := startingConfig, layout := startingLayout
        scene := .map
          { map := 0, tileset := .placeholder
            characters := [{ event := none, bitmap := startingHero }] }
        bitmaps := ⟨[(⟨characterFolder, "hero", 0⟩, startingHero)]⟩ }
    interpreter := Interpreter.ofConfig 0 {} }

/-- The watcher of that session, registered at an instant. -/
private def armedWatcher (now : Nat) : ReloadWatcher :=
  { Session.ownWatcher startingConfig with baseline := some (startingStamp now) }

/-- That session, with its plugins registered at an instant. -/
private def armedSession (now : Nat) : Session Empty :=
  { startedSession with
    plugins := [.reload (armedWatcher now), .overlay (Session.ownOverlay startingConfig)] }

/-- The session is loaded from instant 0 to instant 6. Its plugins can be registered later. -/
private theorem armedSession_life (now : Nat) (hnow : 6 ≤ now) :
    Session.Life startingChronicle startingConfig startingLayout (armedSession now) ⟨true, 0, 6⟩
      (now + 1) := by
  have hstart : Yields (Session.start startingConfig startingLayout false) (⟨0⟩ : Starting)
      (.ok startedSession) ⟨6⟩ := by
    unfold Yields
    cbv
  have hplugins : Yields startedSession.withOwnPlugins (⟨now⟩ : Starting)
      (.ok (), armedSession now) ⟨now + 1⟩ := rfl
  exact .begun hstart hnow hplugins

/-- The watcher looks at the marker in every tick. -/
private theorem armedWatcher_looks (armed now : Nat) :
    (armedWatcher armed).Looks (armedSession armed).context (⟨now⟩ : Starting)
      (.ok (startingStamp now)) ⟨now + 1⟩ :=
  .intro rfl (yields_pure.mpr ⟨rfl, rfl⟩) (.inl rfl) rfl

namespace Session

/-- The plugins are registered at instant 6, before the save. So the tick at instant 10 sees the
time of the save and tries to reload. -/
theorem armed_early_tries_reload :
    startingChronicle.Steady ∧
    Life startingChronicle startingConfig startingLayout (armedSession 6) ⟨true, 0, 6⟩ 7 ∧
    startingSaves.stamped 6 = some { seconds := 0 } ∧
    ∃ t b, Yields ((armedWatcher 6).tick (armedSession 6).context) (⟨10⟩ : Starting) t b ∧
      (armedWatcher 6).TriesReload (armedSession 6).context { seconds := 1 } (⟨10⟩ : Starting)
        t b := by
  have hlife := armedSession_life 6 (Nat.le_refl 6)
  refine ⟨startingChronicle_steady, hlife, rfl, _, _, yields_run .., ?_⟩
  have htries := Life.tries_reload startingChronicle_steady startingSaves hlife rfl rfl
    (show 7 ≤ 10 by decide) (armedWatcher_looks 6 10) (yields_run ..) (show 0 ≤ 6 by decide)
    (Nat.le_refl 6) rfl (by decide)
  refine htries.resolve_right ?_
  rintro ⟨⟨-, hmissing | ⟨hbaseline, -⟩⟩, -⟩
  · cases hmissing
  · cases hbaseline

/-- The plugins are registered at instant 9, after the save. So the running items are those from
before the save, and those of the save can be loaded, but the tick at instant 10 does not try to
reload: the watcher has taken the time of the save for that of the running data. -/
theorem armed_late_loses_save :
    Life startingChronicle startingConfig startingLayout (armedSession 9) ⟨true, 0, 6⟩ 10 ∧
    (armedSession 9).plugins =
      [.reload (armedWatcher 9), .overlay (Session.ownOverlay startingConfig)] ∧
    (armedWatcher 9).config.enabled = true ∧ (armedSession 9).context.scene.isMap = true ∧
    (∀ instant ≤ 6, startingSaves.stamped instant = some { seconds := 0 }) ∧
    (armedSession 9).context.snapshot.tables.items = [] ∧
    Yields (Snapshot.load startingLayout 0 {}).run (⟨10⟩ : Starting)
      (.ok { tables := { items := [.int 7] } }) ⟨16⟩ ∧
    (armedWatcher 9).Looks (armedSession 9).context (⟨10⟩ : Starting) (.ok { seconds := 1 }) ⟨11⟩ ∧
    ∃ t b, Yields ((armedWatcher 9).tick (armedSession 9).context) (⟨10⟩ : Starting) t b ∧
      t.result = .ok .unchanged ∧ t.context = (armedSession 9).context ∧
      ¬ (armedWatcher 9).TriesReload (armedSession 9).context { seconds := 1 } (⟨10⟩ : Starting)
        t b := by
  have hload : Yields (Snapshot.load startingLayout 0 {}).run (⟨10⟩ : Starting)
      (.ok { tables := { items := [.int 7] } }) ⟨16⟩ := by
    unfold Yields
    cbv
  have hbefore : ∀ instant ≤ 6, startingSaves.stamped instant = some { seconds := 0 } := by
    intro instant hinstant
    show some (startingStamp instant) = _
    rw [startingStamp, if_pos (by omega)]
  have hlook := armedWatcher_looks 9 10
  have htick := yields_run ((armedWatcher 9).tick (armedSession 9).context) (⟨10⟩ : Starting)
  obtain ⟨hresult, hcontext⟩ := hlook.unchanged (.inr rfl) htick
  refine ⟨armedSession_life 9 (by decide), rfl, rfl, rfl, hbefore, rfl, hload, hlook, _, _, htick,
    hresult, hcontext, fun htries => htries.result_ne hresult⟩

end Session

end Overworld
