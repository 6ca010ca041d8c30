import Overworld.Proofs.Interpreter.Loop
import Overworld.Proofs.Collision.Showing
import Overworld.Proofs.Session.Transfers
import Overworld.Session.Update

/-!
# Frames of a session with its own plugins

Such a frame is a tick of the watcher, the frame hook of the overlay and, with the map on screen,
changes in place that may end in a transfer. A transfer hides the overlay before anything else.
-/

namespace Overworld

/-- A notice of the overlay. -/
def Notice.isOfOverlay : Notice → Bool
  | .overlayShown .. | .overlayHidden => true
  | _ => false

/-- A board with further notices, none of the overlay. -/
abbrev NoticeBoard.AddsOthers : NoticeBoard → NoticeBoard → Prop :=
  NoticeBoard.Adds (·.isOfOverlay = false)

/-- A step of a world tells nothing of the overlay. -/
theorem World.Step.addsOthers {w w' : World} (h : World.Step w w') :
    w.notices.AddsOthers w'.notices := by
  cases h with
  | log | assign => exact .single _ rfl
  | refresh | transfer => exact .refl ..

/-- Steps of a world tell nothing of the overlay. -/
theorem World.Steps.addsOthers {w w' : World} (h : World.Steps w w') :
    w.notices.AddsOthers w'.notices := by
  induction h with
  | refl => exact .refl ..
  | tail _ hstep ih => exact ih.trans hstep.addsOthers

namespace Session

section

variable {ε : Type}

/-- What a session goes through between hooks and transfers: the plugins, the mode, the generation
of the data and the tiles of the live map stay, and nothing is told of the overlay. -/
structure InPlace (s s' : Session ε) : Prop where
  plugins_eq : s'.plugins = s.plugins
  debug_eq : s'.context.debug = s.context.debug
  generation_eq : s'.context.generation = s.context.generation
  ground_eq : s'.context.snapshot.map.ground = s.context.snapshot.map.ground
  told : s.context.notices.AddsOthers s'.context.notices

variable {s s' s'' : Session ε}

/-- Where nothing happens everything is in place. -/
theorem InPlace.refl (s : Session ε) : s.InPlace s := ⟨rfl, rfl, rfl, rfl, .refl ..⟩

/-- Changes in place, one after the other, are one. -/
theorem InPlace.trans (h : s.InPlace s') (h' : s'.InPlace s'') : s.InPlace s'' :=
  ⟨h'.plugins_eq.trans h.plugins_eq, h'.debug_eq.trans h.debug_eq,
    h'.generation_eq.trans h.generation_eq, h'.ground_eq.trans h.ground_eq, h.told.trans h'.told⟩

/-- A refresh is in place. -/
theorem refreshIfNeeded_inPlace (s : Session ε) : s.InPlace s.refreshIfNeeded := by
  refine ⟨rfl, rfl, rfl, ?_, .refl ..⟩
  simp only [refreshIfNeeded, FieldContext.refreshIfNeeded, FieldContext.setMap,
    FieldMap.refreshIfNeeded]
  split <;> rfl

/-- A tick of the interpreter is in place, also if it fails. -/
theorem runInterpreter_inPlace (s : Session ε) : s.InPlace s.runInterpreter.2 := by
  have hsteps := s.interpreter.tick_steps s.world
  have hground : (s.interpreter.tick s.world).world.map.ground = s.context.snapshot.map.ground := by
    rw [hsteps.map_agrees]
    rfl
  unfold runInterpreter
  rw [Interpreter.update_eq]
  cases (s.interpreter.tick s.world).result <;>
    exact ⟨rfl, rfl, rfl, hground, hsteps.addsOthers⟩

/-- The reaction to the input is in place. -/
theorem reactToInput_inPlace (s : Session ε) (input : Input) :
    s.InPlace (s.reactToInput input) := by
  have hsteer : s.InPlace { s with context := s.context.steer input } := by
    unfold FieldContext.steer
    split
    · exact .refl s
    · simp only
      split <;> exact ⟨rfl, rfl, rfl, rfl, .refl ..⟩
  unfold reactToInput
  simp only
  split
  · split <;> exact hsteer.trans ⟨rfl, rfl, rfl, rfl, .refl ..⟩
  · exact hsteer

/-- A frame with the map on screen, from the hooks up to a transfer. -/
def play (s : Session ε) (input : Input) : Except Fault TickOutcome × Session ε :=
  match s.refreshIfNeeded.runInterpreter with
  | (.error fault, s) => (.error fault, s)
  | (.ok outcome, s) =>
    let s := s.refreshIfNeeded
    (.ok outcome,
      if s.interpreter.isRunning || s.pendingTransfer.isSome then s else s.reactToInput input)

/-- A frame is in place up to a transfer. -/
theorem play_inPlace (s : Session ε) (input : Input) : s.InPlace (s.play input).2 := by
  have hran := (refreshIfNeeded_inPlace s).trans (runInterpreter_inPlace _)
  unfold play
  split
  · rename_i hrun
    rwa [hrun] at hran
  · rename_i hrun
    rw [hrun] at hran
    have hagain := hran.trans (refreshIfNeeded_inPlace _)
    simp only
    split
    · exact hagain
    · exact hagain.trans (reactToInput_inPlace _ input)

/-- The session after the frame hooks. -/
def looked (s : Session ε) (hooks : HookRun (Extension ε)) : Session ε :=
  { s with frame := s.frame + 1, plugins := hooks.plugins, context := hooks.context }

/-- Whether a frame comes to a transfer. -/
def departs (s : Session ε) (hooks : HookRun (Extension ε)) (input : Input) : Bool :=
  hooks.result.isOk && hooks.context.scene.isMap &&
    ((s.looked hooks).play input).1.isOk && ((s.looked hooks).play input).2.pendingTransfer.isSome

variable {σ : Type} [DataSource (StateM σ)] [BitmapLoader (StateM σ)] [Plugin (StateM σ) ε]

/-- The part of a frame that needs the map on screen: up to a transfer, and then that. -/
theorem playMap_eq (s : Session ε) (input : Input) :
    (s.playMap input : StateM σ (Except Fault TickOutcome × Session ε)) =
      match s.play input with
      | (.error fault, s) => return (.error fault, s)
      | (.ok outcome, s) => do
        let (result, s) ← s.settleTransfer
        return (result.map fun _ => outcome, s) := by
  unfold playMap play
  rcases s.refreshIfNeeded.runInterpreter with ⟨_ | _, _⟩ <;> rfl

/-- A frame: the hooks, and behind them the part that needs the map on screen. -/
theorem update_eq (s : Session ε) (input : Input) :
    (s.update input : StateM σ (Except Fault TickOutcome × Session ε)) = do
      let hooks ← Plugin.updateAll s.plugins input s.context
      match hooks.result with
      | .error fault => return (.error fault, s.looked hooks)
      | .ok () =>
        if hooks.context.scene.isMap then (s.looked hooks).playMap input
        else return (.ok .idle, s.looked hooks) := rfl

/-- A transfer, with nothing but changes in place before and behind it. -/
inductive Travels (s : Session ε) (a : σ) : Session ε → σ → Prop
  | intro {s₁ s₂ s' : Session ε} {target : UInt32} {x y : Int} {result : Except Fault Unit} {b : σ}
      (hbefore : s.InPlace s₁) (htransfer : Yields (s₁.transfer target x y) a (result, s₂) b)
      (hbehind : s₂.InPlace s') : Travels s a s' b

/-- What begins with a change in place and goes on with a transfer is a transfer. -/
theorem InPlace.travels {a b : σ} (h : s.InPlace s') (htravels : s'.Travels a s'' b) :
    s.Travels a s'' b := by
  obtain ⟨hbefore, htransfer, hbehind⟩ := htravels
  exact ⟨h.trans hbefore, htransfer, hbehind⟩

/-- A transfer that is pending is carried out, and without one nothing happens. -/
theorem settleTransfer_exits {result : Except Fault Unit} {a b : σ}
    (h : Yields s.settleTransfer a (result, s') b) :
    s.pendingTransfer.isSome = false ∧ s' = s ∨
      s.pendingTransfer.isSome = true ∧ s.Travels a s' b := by
  unfold settleTransfer at h
  split at h
  case h_1 hnone =>
    obtain ⟨-, rfl, -⟩ := yields_pair.mp h
    exact .inl ⟨by rw [hnone]; rfl, rfl⟩
  case h_2 request hrequest =>
    obtain ⟨⟨arrived, s₂⟩, a₁, htransfer, h⟩ := yields_bind.mp h
    have hcleared : s.InPlace { s with pendingTransfer := none } := ⟨rfl, rfl, rfl, rfl, .refl ..⟩
    refine .inr ⟨by rw [hrequest]; rfl, ?_⟩
    cases arrived with
    | error fault =>
      obtain ⟨-, rfl, rfl⟩ := yields_pair.mp h
      exact .intro hcleared htransfer (.refl _)
    | ok =>
      obtain ⟨-, rfl, rfl⟩ := yields_pair.mp h
      exact .intro hcleared htransfer ⟨rfl, rfl, rfl, rfl, .refl ..⟩

/-- The part of a frame that needs the map on screen ends in place, or in a transfer if it comes to
one. -/
theorem playMap_exits {input : Input} {outcome : Except Fault TickOutcome} {a b : σ}
    (h : Yields (s.playMap input) a (outcome, s') b) :
    ((s.play input).1.isOk && (s.play input).2.pendingTransfer.isSome) = false ∧ s.InPlace s' ∨
      ((s.play input).1.isOk && (s.play input).2.pendingTransfer.isSome) = true ∧
        s.Travels a s' b := by
  have hplay := s.play_inPlace input
  rw [playMap_eq] at h
  obtain ⟨⟨ended, s₁⟩, hended⟩ : ∃ played, s.play input = played := ⟨_, rfl⟩
  rw [hended] at h hplay ⊢
  cases ended with
  | error fault =>
    obtain ⟨-, rfl, -⟩ := yields_pair.mp h
    exact .inl ⟨rfl, hplay⟩
  | ok ended =>
    simp only [yields_bind, yields_pair] at h
    obtain ⟨⟨result, s₂⟩, a₁, hsettle, -, rfl, rfl⟩ := h
    rcases settleTransfer_exits hsettle with ⟨hpending, rfl⟩ | ⟨hpending, htravels⟩
    · exact .inl ⟨hpending, hplay⟩
    · exact .inr ⟨hpending, hplay.travels htravels⟩

/-- **A frame ends in place or in a transfer.** Behind its hooks there are only changes in place,
unless it comes to a transfer. -/
theorem update_exits {input : Input} {outcome : Except Fault TickOutcome} {a b : σ}
    (h : Yields (s.update input) a (outcome, s') b) :
    ∃ hooks a₁, Yields (Plugin.updateAll s.plugins input s.context) a hooks a₁ ∧
      (s.departs hooks input = false ∧ (s.looked hooks).InPlace s' ∨
        s.departs hooks input = true ∧ (s.looked hooks).Travels a₁ s' b) := by
  simp only [update, yields_bind] at h
  obtain ⟨hooks, a₁, hhooks, h⟩ := h
  refine ⟨hooks, a₁, hhooks, ?_⟩
  unfold departs
  cases hresult : hooks.result with
  | error fault =>
    simp only [hresult, yields_pair] at h
    obtain ⟨-, rfl, -⟩ := h
    exact .inl ⟨rfl, .refl _⟩
  | ok =>
    cases hscene : hooks.context.scene.isMap with
    | false =>
      simp only [hresult, hscene, Bool.false_eq_true, if_false, yields_pair] at h
      obtain ⟨-, rfl, -⟩ := h
      exact .inl ⟨rfl, .refl _⟩
    | true =>
      simp only [hresult, hscene, if_true] at h
      exact playMap_exits h

/-- What a tick of the watcher makes of a context: nothing new, or the next generation of the data
with its map on screen. -/
structure Watched (c c' : FieldContext) : Prop where
  debug_eq : c'.debug = c.debug
  told : c.notices.AddsOthers c'.notices
  renewed : c'.generation = c.generation ∧ c'.snapshot = c.snapshot ∨
    c'.generation = c.generation + 1 ∧ c'.scene.isMap = true

/-- After a reload in debug mode the overlay is awake, since the map is on screen. -/
theorem Watched.awake {c c' : FieldContext} (h : Watched c c') (hdebug : c.debug = true)
    (hreloaded : c'.generation ≠ c.generation) : (c'.debug && c'.scene.isMap) = true := by
  rcases h.renewed with ⟨hsame, -⟩ | ⟨-, hscene⟩
  · exact absurd hsame hreloaded
  · rw [h.debug_eq, hdebug, hscene, Bool.and_self]

/-- In the same generation the data are the same. The generation after it is another one, even where
the count starts again. -/
theorem Watched.kept {c c' : FieldContext} (h : Watched c c')
    (hsame : c'.generation = c.generation) : c'.snapshot = c.snapshot := by
  rcases h.renewed with ⟨-, hsnapshot⟩ | ⟨hnext, -⟩
  · exact hsnapshot
  · have hcount := congrArg UInt64.toNat (hnext.symm.trans hsame)
    rw [UInt64.toNat_add, UInt64.toNat_one] at hcount
    omega

omit [Plugin (StateM σ) ε] in
/-- Every tick of the watcher makes that of it. -/
theorem tick_watched {w : ReloadWatcher} {c : FieldContext} {t : ReloadTick} {a b : σ}
    (h : Yields (w.tick c) a t b) : Watched c t.context := by
  cases ReloadWatcher.tick_exits h with
  | rest hrest => cases hrest <;> exact ⟨rfl, .refl .., .inl ⟨rfl, rfl⟩⟩
  | reload _ _ _ hreload =>
    cases hreload with
    | committed => exact ⟨rfl, .single _ rfl, .inr ⟨rfl, rfl⟩⟩
    | _ => exact ⟨rfl, .single _ rfl, .inl ⟨rfl, rfl⟩⟩

/-- What the frame hooks of a session's own plugins come to if the watcher's tick comes to `t`: the
overlay sees what the watcher has left, also if the watcher has failed. -/
def ownHooks (o : Overlay) (input : Input) (t : ReloadTick) : HookRun (Extension ε) :=
  let hooked := o.onUpdate input t.context
  { result :=
      Plugin.firstFatal (t.result.map fun _ => ()) (Plugin.firstFatal hooked.result (.ok ()))
    plugins := [.reload t.watcher, .overlay hooked.plugin]
    context := hooked.context }

/-- The frame hooks of a session's own plugins come to that. -/
theorem yields_updateAll_own {w : ReloadWatcher} {o : Overlay} {input : Input} {c : FieldContext}
    {hooks : HookRun (Extension ε)} {a b : σ} :
    Yields (Plugin.updateAll [.reload w, .overlay o] input c) a hooks b ↔
      ∃ t, Yields (w.tick c) a t b ∧ hooks = ownHooks o input t := by
  simp only [Plugin.updateAll, Plugin.runAll, yields_bind, yields_pure]
  constructor
  · rintro ⟨_, _, hwatcher, _, _, ⟨_, _, hoverlay, _, _, ⟨rfl, rfl⟩, rfl, rfl⟩, rfl, rfl⟩
    obtain ⟨t, htick, rfl⟩ := Extension.yields_update_reload.mp hwatcher
    obtain ⟨rfl, rfl⟩ := yields_pure.mp hoverlay
    exact ⟨t, htick, rfl⟩
  · rintro ⟨t, htick, rfl⟩
    exact ⟨_, b, Extension.yields_update_reload.mpr ⟨t, htick, rfl⟩, _, b,
      ⟨_, b, yields_pure.mpr ⟨rfl, rfl⟩, _, b, ⟨rfl, rfl⟩, rfl, rfl⟩, rfl, rfl⟩

/-- The transfer hooks of a session's own plugins hide the overlay. -/
theorem transferAll_own {w : ReloadWatcher} {o : Overlay} {source target : UInt32}
    {c : FieldContext} {hooks : HookRun (Extension ε)} {a b : σ}
    (h : Yields (Plugin.transferAll [.reload w, .overlay o] source target c) a hooks b) :
    hooks.plugins = [.reload w, .overlay o.hide] ∧ hooks.context = (o.onTransfer c).context := by
  simp only [Plugin.transferAll, Plugin.runAll, yields_bind, yields_pure] at h
  obtain ⟨hooked, a₁, hwatcher, later, a₂, ⟨hooked', a₃, hoverlay, last, a₄, ⟨rfl, rfl⟩, rfl, rfl⟩,
    rfl, rfl⟩ := h
  obtain ⟨rfl, rfl⟩ := yields_pure.mp hwatcher
  obtain ⟨rfl, rfl⟩ := yields_pure.mp hoverlay
  exact ⟨rfl, rfl⟩

/-- From one context to another a transfer can lead behind its hooks: the mode and the generation of
the data stay, and nothing is told of the overlay. -/
structure Arrives (c c' : FieldContext) : Prop where
  debug_eq : c'.debug = c.debug
  generation_eq : c'.generation = c.generation
  told : c.notices.AddsOthers c'.notices

/-- Putting the map of a transfer in place is behind its hooks. -/
theorem Reaches.arrives {target : UInt32} {hooks : HookRun (Extension ε)} {c : FieldContext}
    {a b : σ} (h : s.Reaches target a hooks c b) : Arrives hooks.context c := by
  cases h <;> exact ⟨rfl, rfl, .refl ..⟩

/-- Whatever a transfer comes to, it is its hooks and what can be behind them. -/
theorem TransferExits.arrives {target : UInt32} {x y : Int} {result : Except Fault Unit} {a b : σ}
    (h : s.TransferExits target x y a result s' b) :
    ∃ hooks a₁, Yields (Plugin.transferAll s.plugins s.context.mapId target s.context) a hooks a₁ ∧
      s'.plugins = hooks.plugins ∧ Arrives hooks.context s'.context := by
  cases h with
  | refused hhooks | unreadable hhooks => exact ⟨_, _, hhooks, rfl, rfl, rfl, .refl ..⟩
  | unseen hreach | shown hreach =>
    obtain ⟨a₁, hhooks⟩ := hreach.hooks_run
    obtain ⟨hdebug, hgeneration, htold⟩ := hreach.arrives
    exact ⟨_, a₁, hhooks, rfl, hdebug, hgeneration, htold.trans (.single _ rfl)⟩
  | sceneFailed hreach =>
    obtain ⟨a₁, hhooks⟩ := hreach.hooks_run
    obtain ⟨hdebug, hgeneration, htold⟩ := hreach.arrives
    exact ⟨_, a₁, hhooks, rfl, hdebug, hgeneration, htold⟩

/-- A transfer takes the overlay down: it is hidden, and the host is told if it was shown. -/
structure TakesDown (w : ReloadWatcher) (o : Overlay) (s s' : Session ε) : Prop where
  plugins_eq : s'.plugins = [.reload w, .overlay o.hide]
  arrives : Arrives (o.onTransfer s.context).context s'.context

/-- Every transfer takes the overlay down first, wherever it fails. -/
theorem transfer_takesDown {w : ReloadWatcher} {o : Overlay} {target : UInt32} {x y : Int}
    {result : Except Fault Unit} {a b : σ} (hplugins : s.plugins = [.reload w, .overlay o])
    (h : Yields (s.transfer target x y) a (result, s') b) : TakesDown w o s s' := by
  obtain ⟨hooks, a₁, hhooks, hkept, harrives⟩ := (transfer_exits h).arrives
  rw [hplugins] at hhooks
  obtain ⟨hown, hcontext⟩ := transferAll_own hhooks
  exact ⟨hkept.trans hown, hcontext ▸ harrives⟩

/-- A frame of a session with its own plugins is their hooks and what is behind them. -/
theorem update_own {w : ReloadWatcher} {o : Overlay} {input : Input}
    {outcome : Except Fault TickOutcome} {a b : σ} (hplugins : s.plugins = [.reload w, .overlay o])
    (h : Yields (s.update input) a (outcome, s') b) :
    ∃ t a₁, Yields (w.tick s.context) a t a₁ ∧
      Yields (Plugin.updateAll s.plugins input s.context) a (ownHooks o input t) a₁ ∧
      (s.departs (ownHooks o input t) input = false ∧ (s.looked (ownHooks o input t)).InPlace s' ∨
        s.departs (ownHooks o input t) input = true ∧
          (s.looked (ownHooks o input t)).Travels a₁ s' b) := by
  obtain ⟨hooks, a₁, hhooks, hends⟩ := update_exits h
  have hown := hhooks
  rw [hplugins] at hown
  obtain ⟨t, htick, rfl⟩ := yields_updateAll_own.mp hown
  exact ⟨t, a₁, htick, hhooks, hends⟩

/-- Conversely, with the map on screen a frame goes on behind its hooks, unless these have
failed. -/
theorem yields_update_own {w : ReloadWatcher} {o : Overlay} {input : Input} {t : ReloadTick}
    {played : Except Fault TickOutcome × Session ε} {a a₁ b : σ}
    (hplugins : s.plugins = [.reload w, .overlay o]) (htick : Yields (w.tick s.context) a t a₁)
    (hok : (ownHooks o input t : HookRun (Extension ε)).result = .ok ())
    (hscene : (ownHooks o input t : HookRun (Extension ε)).context.scene.isMap = true)
    (hplay : Yields ((s.looked (ownHooks o input t)).playMap input) a₁ played b) :
    Yields (s.update input) a played b := by
  have hhooks : Yields (Plugin.updateAll s.plugins input s.context) a (ownHooks o input t) a₁ := by
    rw [hplugins]
    exact yields_updateAll_own.mpr ⟨t, htick, rfl⟩
  refine yields_bind.mpr ⟨_, a₁, hhooks, ?_⟩
  simp only [hok, hscene, if_true]
  exact hplay

end

end Session

end Overworld
