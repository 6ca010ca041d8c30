import Overworld.Proofs.Surroundings
import Overworld.Session.Update

/-!
# The parts of a frame

A frame, a transfer and a change of the scene are made of a few parts: the hooks of the plugins,
the turns of the interpreter, and small changes of the context. What every part does to the
context, however the surroundings answer, the whole does.
-/

namespace Overworld

namespace Session

variable {σ ε : Type} [DataSource (StateM σ)] [BitmapLoader (StateM σ)] [Plugin (StateM σ) ε]

/-- A relation between the contexts before and after that the parts of a transfer keep. -/
structure TransferParts (σ ε : Type) [DataSource (StateM σ)] [BitmapLoader (StateM σ)]
    [Plugin (StateM σ) ε] (R : FieldContext → FieldContext → Prop) : Prop where
  refl (c : FieldContext) : R c c
  trans {c c' c'' : FieldContext} : R c c' → R c' c'' → R c c''
  /-- The player, the scene and the bitmaps kept change. -/
  screen (c : FieldContext) (player : Player) (scene : ActiveScene) (bitmaps : BitmapCache) :
    R c { c with player, scene, bitmaps }
  /-- The map is scrolled. -/
  scroll (c : FieldContext) : R c c.centerOnPlayer
  /-- Another map is put in place of the live one. -/
  enter (c : FieldContext) (id : UInt32) (record : MapRecord) : R c (c.enterMap id record)
  /-- The host is told of the transfer. -/
  arrived (c : FieldContext) (source target : UInt32) (x y : Int) :
    R c (c.notify (.mapTransferred source target x y))
  /-- A plugin runs its transfer hook. -/
  transferHook {plugin : Extension ε} {source target : UInt32} {c : FieldContext}
    {hooked : Hooked (Extension ε)} {a b : σ} :
    Yields (Plugin.onTransfer plugin source target c) a hooked b → R c hooked.context

/-- A relation between the contexts before and after that the parts of a frame keep. -/
structure FrameParts (σ ε : Type) [DataSource (StateM σ)] [BitmapLoader (StateM σ)]
    [Plugin (StateM σ) ε] (R : FieldContext → FieldContext → Prop) : Prop
    extends TransferParts σ ε R where
  /-- The map is refreshed if that was asked for. -/
  refresh (c : FieldContext) : R c c.refreshIfNeeded
  /-- The interpreter takes a tick. -/
  interpret (s : Session ε) : R s.context s.runInterpreter.2.context
  /-- A plugin runs its frame hook. -/
  updateHook {plugin : Extension ε} {input : Input} {c : FieldContext}
    {hooked : Hooked (Extension ε)} {a b : σ} :
    Yields (Plugin.update plugin input c) a hooked b → R c hooked.context

namespace TransferParts

variable {R : FieldContext → FieldContext → Prop} {s s' : Session ε} {result : Except Fault Unit}
  {a b : σ}

/-- What a hook does to the context, the hooks of all plugins do. -/
theorem runAll (hR : TransferParts σ ε R)
    {hook : Extension ε → FieldContext → StateM σ (Hooked (Extension ε))}
    (hhook : ∀ {plugin : Extension ε} {c : FieldContext} {hooked : Hooked (Extension ε)} {a b : σ},
      Yields (hook plugin c) a hooked b → R c hooked.context)
    {plugins : List (Extension ε)} {c : FieldContext} {run : HookRun (Extension ε)} {a b : σ}
    (h : Yields (Plugin.runAll hook c plugins) a run b) : R c run.context := by
  induction plugins generalizing c run a b with
  | nil =>
    obtain ⟨rfl, -⟩ := yields_pure.mp h
    exact hR.refl c
  | cons plugin rest ih =>
    simp only [Plugin.runAll, yields_bind, yields_pure] at h
    obtain ⟨hooked, a₁, hfirst, later, a₂, hrest, rfl, -⟩ := h
    have hothers := ih hrest
    exact hR.trans (hhook hfirst) hothers

/-- A change of the scene is one of its parts. -/
theorem setScene (hR : TransferParts σ ε R) {kind : SceneKind}
    (h : Yields (s.setScene kind) a (result, s') b) : R s.context s'.context := by
  cases kind with
  | map =>
    simp only [Session.setScene, FieldContext.buildScene, yields_bind, yields_pure] at h
    obtain ⟨⟨scene, context⟩, a₁, ⟨built, a₂, -, hcontext, -⟩, h⟩ := h
    cases hcontext
    cases hscene : built.1 with
    | error fault =>
      simp only [hscene, yields_pair] at h
      obtain ⟨-, rfl, -⟩ := h
      exact hR.screen ..
    | ok scene =>
      simp only [hscene, yields_pair] at h
      obtain ⟨-, rfl, -⟩ := h
      exact hR.screen ..
  | menu | battle | title =>
    simp only [Session.setScene, yields_pair] at h
    obtain ⟨-, rfl, -⟩ := h
    exact hR.screen ..

/-- Arriving on a map is made of its parts. -/
theorem arrive (hR : TransferParts σ ε R) {source target : UInt32} {x y : Int}
    (h : Yields (s.arrive source target x y) a (result, s') b) : R s.context s'.context := by
  have hplaced : R s.context (s.context.placePlayer x y) :=
    hR.trans (hR.screen _ (s.context.player.moveTo x y) _ _) (hR.scroll _)
  simp only [Session.arrive] at h
  split at h
  · obtain ⟨⟨built, s₁⟩, a₁, hscene, h⟩ := yields_bind.mp h
    have hshown := hR.trans hplaced (hR.setScene hscene)
    cases built with
    | error fault =>
      obtain ⟨-, rfl, -⟩ := yields_pair.mp h
      exact hshown
    | ok =>
      obtain ⟨-, rfl, -⟩ := yields_pair.mp h
      exact hR.trans hshown (hR.arrived ..)
  · simp only [pure_bind, yields_pair] at h
    obtain ⟨-, rfl, -⟩ := h
    exact hR.trans hplaced (hR.arrived ..)

/-- A transfer is made of its parts, wherever it fails. -/
theorem transfer (hR : TransferParts σ ε R) {target : UInt32} {x y : Int}
    (h : Yields (s.transfer target x y) a (result, s') b) : R s.context s'.context := by
  simp only [Session.transfer, Plugin.transferAll, yields_bind] at h
  obtain ⟨run, a₁, hrun, h⟩ := h
  have hhooks : R s.context run.context := hR.runAll hR.transferHook hrun
  cases hresult : run.result with
  | error fault =>
    simp only [hresult, yields_pair] at h
    obtain ⟨-, rfl, -⟩ := h
    exact hhooks
  | ok =>
    simp only [hresult] at h
    split at h
    · exact hR.trans hhooks (hR.arrive h)
    · obtain ⟨loaded, a₂, -, h⟩ := yields_bind.mp h
      cases loaded with
      | error fault =>
        obtain ⟨-, rfl, -⟩ := yields_pair.mp h
        exact hhooks
      | ok record =>
        exact hR.trans (hR.trans hhooks (hR.enter _ target record)) (hR.arrive h)

/-- Carrying out a transfer that is pending is made of the parts of a transfer. -/
theorem settleTransfer (hR : TransferParts σ ε R)
    (h : Yields s.settleTransfer a (result, s') b) : R s.context s'.context := by
  unfold Session.settleTransfer at h
  split at h
  · obtain ⟨-, rfl, -⟩ := yields_pair.mp h
    exact hR.refl _
  · obtain ⟨⟨arrived, s₁⟩, a₁, htransfer, h⟩ := yields_bind.mp h
    have hwent := hR.transfer htransfer
    cases arrived with
    | error fault =>
      obtain ⟨-, rfl, -⟩ := yields_pair.mp h
      exact hwent
    | ok =>
      obtain ⟨-, rfl, -⟩ := yields_pair.mp h
      exact hR.trans hwent (hR.screen ..)

/-- The reaction to the input moves the player and scrolls the map. -/
theorem reactToInput (hR : TransferParts σ ε R) (s : Session ε) (input : Input) :
    R s.context (s.reactToInput input).context := by
  have hsteer : R s.context (s.context.steer input) := by
    unfold FieldContext.steer
    split
    · exact hR.refl _
    · simp only
      split
      · exact hR.trans (hR.screen ..) (hR.scroll _)
      · exact hR.screen ..
  unfold Session.reactToInput
  simp only
  split
  · split <;> exact hsteer
  · exact hsteer

end TransferParts

namespace FrameParts

variable {R : FieldContext → FieldContext → Prop} {s s' : Session ε}
  {outcome : Except Fault TickOutcome} {input : Input} {a b : σ}

/-- The part of a frame that needs the map on screen is made of its parts. -/
theorem playMap (hR : FrameParts σ ε R) (h : Yields (s.playMap input) a (outcome, s') b) :
    R s.context s'.context := by
  have hran : R s.context s.refreshIfNeeded.runInterpreter.2.context :=
    hR.trans (hR.refresh _) (hR.interpret s.refreshIfNeeded)
  unfold Session.playMap at h
  obtain ⟨⟨ended, s₁⟩, hrun⟩ : ∃ run, s.refreshIfNeeded.runInterpreter = run := ⟨_, rfl⟩
  rw [hrun] at h hran
  cases ended with
  | error fault =>
    obtain ⟨-, rfl, -⟩ := yields_pair.mp h
    exact hran
  | ok ended =>
    have hagain : R s.context s₁.refreshIfNeeded.context := hR.trans hran (hR.refresh _)
    simp only [yields_bind, yields_pair] at h
    obtain ⟨⟨settled, s₂⟩, a₁, hsettle, -, rfl, -⟩ := h
    have hsettled := hR.settleTransfer hsettle
    split at hsettled
    · exact hR.trans hagain hsettled
    · exact hR.trans hagain (hR.trans (hR.reactToInput _ input) hsettled)

/-- **A frame is made of its parts**, however it ends. -/
theorem update (hR : FrameParts σ ε R) (h : Yields (s.update input) a (outcome, s') b) :
    R s.context s'.context := by
  simp only [Session.update, Plugin.updateAll, yields_bind] at h
  obtain ⟨run, a₁, hrun, h⟩ := h
  have hhooks : R s.context run.context := hR.runAll hR.updateHook hrun
  cases hresult : run.result with
  | error fault =>
    simp only [hresult, yields_pair] at h
    obtain ⟨-, rfl, -⟩ := h
    exact hhooks
  | ok =>
    simp only [hresult] at h
    split at h
    · exact hR.trans hhooks (hR.playMap h)
    · simp only [yields_pair] at h
      obtain ⟨-, rfl, -⟩ := h
      exact hhooks

end FrameParts

end Session

end Overworld
