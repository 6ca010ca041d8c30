import Overworld.Proofs.Session.OwnFrames
import Overworld.Session.Run

/-!
# The course of a session

The course of a session with its own plugins is what its host makes of it, together with the notices
that the host has taken and the forms that the live map has had since it was put in place.
-/

namespace Overworld

namespace NoticeBoard

/-- The last notice of the overlay. -/
def lastOfOverlay? (l : NoticeBoard) : Option Notice := l.reverse.find? Notice.isOfOverlay

/-- The last notice of the overlay tells that it is shown. -/
def TellsShown (l : NoticeBoard) : Prop :=
  ∃ map blocked, l.lastOfOverlay? = some (.overlayShown map blocked)

variable {l l' : NoticeBoard}

/-- A notice of the overlay is its last one. -/
theorem lastOfOverlay?_append_self (l : NoticeBoard) {notice : Notice}
    (h : notice.isOfOverlay = true) : lastOfOverlay? (l ++ [notice]) = some notice := by
  simp [lastOfOverlay?, h]

/-- Other notices leave the last notice of the overlay, whatever has been told before. -/
theorem AddsOthers.lastOfOverlay?_eq (before : NoticeBoard) (h : l.AddsOthers l') :
    lastOfOverlay? (before ++ l') = lastOfOverlay? (before ++ l) := by
  obtain ⟨told, rfl, htold⟩ := h
  have hnone : told.reverse.find? Notice.isOfOverlay = none := by simpa using htold
  rw [lastOfOverlay?, lastOfOverlay?, ← List.append_assoc, List.reverse_append, List.find?_append,
    hnone, Option.none_or]

/-- Other notices do not change what the overlay has told last. -/
theorem AddsOthers.tellsShown_iff (before : NoticeBoard) (h : l.AddsOthers l') :
    TellsShown (before ++ l') ↔ TellsShown (before ++ l) := by
  rw [TellsShown, TellsShown, h.lastOfOverlay?_eq]

/-- The overlay has told last that it is shown. -/
theorem tellsShown_shown (before l : NoticeBoard) (map : UInt32) (blocked : Nat) :
    TellsShown (before ++ (l ++ [.overlayShown map blocked])) := by
  rw [← List.append_assoc]
  exact ⟨_, _, lastOfOverlay?_append_self _ rfl⟩

/-- The overlay has told last that it is hidden. -/
theorem not_tellsShown_hidden (before l : NoticeBoard) :
    ¬ TellsShown (before ++ (l ++ [.overlayHidden])) := by
  rw [← List.append_assoc]
  rintro ⟨map, blocked, hlast⟩
  rw [lastOfOverlay?_append_self _ rfl] at hlast
  cases hlast

end NoticeBoard

namespace Session

/-- Has new tilemaps refused from now on, or granted again. -/
def refusingTilemaps {ε : Type} (s : Session ε) (refuses : Bool) : Session ε :=
  { s with
    plugins := s.plugins.map (Extension.mapOverlay fun o =>
      { o with canvas := { o.canvas with refusesTilemaps := refuses } }) }

/-- The forms of the live map since it was put in place, with those of a frame: a reload and a
transfer put a new one in place. -/
def formsAfter {ε : Type} (s : Session ε) (hooks : HookRun (Extension ε)) (input : Input)
    (s' : Session ε) (forms : List FieldMap) : List FieldMap :=
  if s.departs hooks input then [s'.context.snapshot.map]
  else
    s'.context.snapshot.map ::
      if hooks.context.generation = s.context.generation then forms
      else [hooks.context.snapshot.map]

section

variable {σ : Type} [DataSource (StateM σ)] [BitmapLoader (StateM σ)]

/-- The courses of sessions with their own plugins, whatever the surroundings: what updates that
satisfy `P`, transfers, changes of the scene and the calls that are open to the host make of a
session whose overlay is hidden, whether these fail or not, while tilemaps are refused or granted.
`taken` are the notices that the host has taken so far, and `forms` what the live map has been like
since a reload or a transfer put it in place. -/
inductive Course (σ : Type) [DataSource (StateM σ)] [BitmapLoader (StateM σ)]
    (P : Session Empty → Input → Session Empty → Prop) :
    Session Empty → NoticeBoard → List FieldMap → Prop
  | begun {s : Session Empty} {w : ReloadWatcher} {o : Overlay}
      (hplugins : s.plugins = [.reload w, .overlay o]) (hhidden : o.enabled = false)
      (hboard : ¬ s.context.notices.TellsShown) : Course σ P s [] [s.context.snapshot.map]
  | updated {s s' : Session Empty} {taken : NoticeBoard} {forms : List FieldMap} {input : Input}
      {outcome : Except Fault TickOutcome} {hooks : HookRun (Extension Empty)} {a a₁ b : σ}
      (hs : Course σ P s taken forms)
      (hhooks : Yields (Plugin.updateAll s.plugins input s.context) a hooks a₁)
      (h : Yields (s.update input) a (outcome, s') b) (hP : P s input s') :
      Course σ P s' taken (s.formsAfter hooks input s' forms)
  | transferred {s s' : Session Empty} {taken : NoticeBoard} {forms : List FieldMap}
      {target : UInt32} {x y : Int} {result : Except Fault Unit} {a b : σ}
      (hs : Course σ P s taken forms) (h : Yields (s.transfer target x y) a (result, s') b) :
      Course σ P s' taken [s'.context.snapshot.map]
  | sceneChanged {s s' : Session Empty} {taken : NoticeBoard} {forms : List FieldMap}
      {kind : SceneKind} {result : Except Fault Unit} {a b : σ} (hs : Course σ P s taken forms)
      (h : Yields (s.setScene kind) a (result, s') b) : Course σ P s' taken forms
  | eventStarted {s : Session Empty} {taken : NoticeBoard} {forms : List FieldMap}
      (hs : Course σ P s taken forms) (event : UInt32) :
      Course σ P (s.startEvent event).2 taken forms
  | eventCalled {s : Session Empty} {taken : NoticeBoard} {forms : List FieldMap}
      (hs : Course σ P s taken forms) (target : CallTarget) :
      Course σ P (s.callEvent target).2 taken forms
  | switchSet {s : Session Empty} {taken : NoticeBoard} {forms : List FieldMap}
      (hs : Course σ P s taken forms) (name switch : String) (value : Bool) :
      Course σ P (s.setSwitchOf name switch value) taken
        ((s.setSwitchOf name switch value).context.snapshot.map :: forms)
  | noticesTaken {s : Session Empty} {taken : NoticeBoard} {forms : List FieldMap}
      (hs : Course σ P s taken forms) :
      Course σ P s.takeNotices.2 (taken ++ s.takeNotices.1) forms
  | refusing {s : Session Empty} {taken : NoticeBoard} {forms : List FieldMap}
      (hs : Course σ P s taken forms) (refuses : Bool) :
      Course σ P (s.refusingTilemaps refuses) taken forms

variable {P : Session Empty → Input → Session Empty → Prop} {s s' : Session Empty}

/-- A registered plugin stands behind the others. -/
theorem register_exits {plugin : Extension Empty} {a b : σ}
    (h : Yields (s.register plugin) a (.ok (), s') b) :
    ∃ hooked : Hooked (Extension Empty), Yields (Plugin.build plugin s.context) a hooked b ∧
      s' = { s with plugins := s.plugins ++ [hooked.plugin], context := hooked.context } := by
  simp only [register, Plugin.register, yields_bind, yields_pure] at h
  obtain ⟨run, a₁, ⟨hooked, a₂, hbuild, hrun⟩, hpair, rfl⟩ := h
  cases hresult : hooked.result with
  | error fault =>
    simp only [hresult, yields_pure] at hrun
    obtain ⟨rfl, -⟩ := hrun
    cases hpair
  | ok =>
    simp only [hresult, yields_pure] at hrun
    obtain ⟨rfl, rfl⟩ := hrun
    cases hpair
    exact ⟨hooked, hbuild, rfl⟩

/-- A session starts without plugins and without notices, with the settings and the layout that it
was given. -/
theorem start_bare {config : FieldConfig} {layout : DataLayout} {debug : Bool} {a b : σ}
    (h : Yields (Session.start config layout debug) a (.ok s) b) :
    s.plugins = [] ∧ s.context.notices = [] ∧ s.context.config = config ∧
      s.context.layout = layout := by
  simp only [start, yields_bind] at h
  obtain ⟨loaded, a₁, -, h⟩ := h
  cases loaded with
  | error fault => cases (yields_pure.mp h).1
  | ok snapshot =>
    obtain ⟨⟨scene, bitmaps⟩, a₂, -, h⟩ := yields_bind.mp h
    cases scene with
    | error fault => cases (yields_pure.mp h).1
    | ok scene =>
      cases (yields_pure.mp h).1
      exact ⟨rfl, rfl, rfl, rfl⟩

/-- The plugins that a session has of its own are a watcher that has been registered and a hidden
overlay, and their registration leaves the context alone. -/
theorem withOwnPlugins_exits {b b' : σ} (hbare : s.plugins = [])
    (h : Yields s.withOwnPlugins b (.ok (), s') b') :
    ∃ part, Yields ((ownWatcher s.context.config).onBuild s.context) b part b' ∧
      s'.plugins = [.reload part.plugin, .overlay (ownOverlay s.context.config)] ∧
      s'.context = s.context := by
  simp only [withOwnPlugins, yields_bind] at h
  obtain ⟨⟨registered, s₁⟩, b₁, hwatcher, h⟩ := h
  cases registered with
  | error fault => cases (yields_pure.mp h).1
  | ok =>
    obtain ⟨watcher, hbuild, rfl⟩ := register_exits hwatcher
    obtain ⟨overlay, hoverlay, rfl⟩ := register_exits h
    obtain ⟨part, hpart, rfl⟩ := yields_map.mp hbuild
    obtain ⟨rfl, rfl⟩ := yields_pure.mp hoverlay
    have hcontext : part.context = s.context := ReloadWatcher.onBuild_context hpart
    refine ⟨part, hpart, ?_, hcontext⟩
    simp only [hbare, List.nil_append, List.singleton_append, Extension.lift, hcontext]

/-- A session that has started with its own plugins begins a course. -/
theorem Course.new {config : FieldConfig} {layout : DataLayout} {debug : Bool} {a a' b b' : σ}
    (hstart : Yields (Session.start config layout debug) a (.ok s) a')
    (hplugins : Yields s.withOwnPlugins b (.ok (), s') b') :
    Course σ P s' [] [s'.context.snapshot.map] := by
  obtain ⟨hbare, hquiet, -⟩ := start_bare hstart
  obtain ⟨part, -, hown, hcontext⟩ := withOwnPlugins_exits hbare hplugins
  refine .begun hown rfl ?_
  rw [hcontext, hquiet]
  rintro ⟨map, blocked, hlast⟩
  cases hlast

end

end Session

end Overworld
