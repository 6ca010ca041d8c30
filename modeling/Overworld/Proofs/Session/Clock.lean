import Overworld.Proofs.Reload.MovingFiles
import Overworld.Proofs.Session.OwnFrames

/-!
# The clock of a session

A session asks its surroundings one question after the other. If no question turns the clock back,
neither does a tick of the watcher or what a frame does behind its hooks, however they end.
-/

namespace Overworld

section

variable {σ α β : Type} {clock : σ → Nat}

/-- The clock never goes back in two computations in a row that may fail. -/
theorem Forward.except_bind {x : Reading (StateM σ) α} {f : α → Reading (StateM σ) β}
    (hx : Forward clock x.run) (hf : ∀ a, Forward clock (f a).run) :
    Forward clock (x >>= f).run := by
  intro s r s' h
  rcases yields_except_bind.mp h with ⟨a, s₁, hfirst, hsecond⟩ | ⟨fault, hfirst, -⟩
  · exact Nat.le_trans (hx _ _ _ hfirst) (hf a _ _ _ hsecond)
  · exact hx _ _ _ hfirst

variable {π : Type}

/-- The clock never goes back in the hooks of plugins if it does in no hook. -/
theorem forward_runAll {hook : π → FieldContext → StateM σ (Hooked π)}
    (hhook : ∀ plugin c, Forward clock (hook plugin c)) (c : FieldContext) (plugins : List π) :
    Forward clock (Plugin.runAll hook c plugins) := by
  induction plugins generalizing c with
  | nil => exact forward_pure _
  | cons plugin rest ih =>
    exact .bind (hhook plugin c) fun _ => .bind (ih _) fun _ => forward_pure _

end

namespace Chronicle

variable {σ : Type} [DataSource (StateM σ)] [BitmapLoader (StateM σ)]

section

variable (ch : Chronicle σ)

/-- No time runs backwards in the transfer hooks of a session's own plugins. -/
theorem forward_transferAll (plugins : List (Extension Empty)) (source target : UInt32)
    (c : FieldContext) :
    Forward ch.clock (Plugin.transferAll plugins source target c : StateM σ _) := by
  refine forward_runAll (fun plugin c => ?_) c plugins
  cases plugin with
  | reload w => exact forward_pure _
  | overlay o => exact forward_pure _
  | custom p => exact p.elim

variable (s : Session Empty)

/-- No time runs backwards in a change of the scene. -/
theorem forward_setScene (kind : SceneKind) :
    Forward ch.clock (s.setScene kind : StateM σ _) := by
  cases kind with
  | map =>
    refine .bind (.bind (ch.forward_build _ _ _) fun _ => forward_pure _) fun ⟨scene, context⟩ => ?_
    cases scene <;> exact forward_pure _
  | menu | battle | title => exact forward_pure _

/-- No time runs backwards while the player arrives on a map. -/
theorem forward_arrive (source target : UInt32) (x y : Int) :
    Forward ch.clock (s.arrive source target x y : StateM σ _) := by
  simp only [Session.arrive]
  split
  · refine .bind (ch.forward_setScene _ _) fun shown => ?_
    obtain ⟨result, s⟩ := shown
    cases result <;> exact forward_pure _
  · exact forward_pure _

end

/-- The clock does not go back in the questions that a chronicle says nothing of: in reads, which
may fail, and in the beginning of an observation. -/
structure Steady (ch : Chronicle σ) : Prop where
  read_forward (path : FilePath) :
    Forward ch.clock (DataSource.read path : StateM σ (Except Fault Bytes))
  observe_forward (root : FilePath) : Forward ch.clock (DataSource.observe root : StateM σ Bool)

namespace Steady

variable {ch : Chronicle σ} (hsteady : ch.Steady)

include hsteady

/-- No time runs backwards while a file is loaded. -/
theorem forward_loadFile {α : Type} (label : String) (path : FilePath)
    (decode : Bytes → Except Fault α) :
    Forward ch.clock (loadFile label path decode : Reading (StateM σ) α).run := by
  refine .bind (hsteady.read_forward path) fun answer => ?_
  cases answer <;> exact forward_pure _

/-- No time runs backwards while a snapshot is loaded. -/
theorem forward_load (layout : DataLayout) (map : UInt32) (switches : SelfSwitches) :
    Forward ch.clock (Snapshot.load layout map switches : Reading (StateM σ) Snapshot).run :=
  snapshot_load_related (R := fun {α} (x : Reading (StateM σ) α) (_ : Reading (StateM σ) α) =>
    Forward ch.clock x.run) (fun a => forward_pure (Except.ok a)) .except_bind
    (fun _ => hsteady.forward_loadFile _ _ _) switches

/-- No time runs backwards while the tables are read. -/
theorem forward_tablesStream (layout : DataLayout) (stream : Bytes) (kinds : List TableKind) :
    Forward ch.clock (tablesStream layout stream kinds : Reading (StateM σ) Bytes).run := by
  induction kinds generalizing stream with
  | nil => exact forward_pure _
  | cons kind kinds ih => exact .except_bind (hsteady.read_forward _) fun _ => ih _

/-- No time runs backwards while a data set is fingerprinted. -/
theorem forward_fingerprint (layout : DataLayout) (map : UInt32) :
    Forward ch.clock (fingerprint layout map : Reading (StateM σ) Fingerprint).run := by
  refine .except_bind (.except_bind (hsteady.forward_tablesStream _ _ _) fun stream => ?_)
    fun _ => forward_pure _
  split
  · exact forward_pure _
  · exact .except_bind (hsteady.read_forward _) fun _ => forward_pure _

/-- No time runs backwards while a data set is checked. -/
theorem forward_checkpoint (w : ReloadWatcher) (c : FieldContext) :
    Forward ch.clock (w.checkpoint c : StateM σ _) := by
  unfold ReloadWatcher.checkpoint
  split
  · exact .bind (hsteady.forward_fingerprint _ _) fun _ => forward_pure _
  · exact forward_pure _

/-- No time runs backwards in a reload. -/
theorem forward_reload (w : ReloadWatcher) (c : FieldContext) (seen : Stamp) :
    Forward ch.clock (w.reload c seen : StateM σ ReloadTick) := by
  refine .bind (ch.pause_forward _) fun _ => .bind (hsteady.forward_checkpoint w c) fun before => ?_
  cases before with
  | error => exact forward_pure _
  | ok before =>
    refine .bind (hsteady.forward_load _ _ _) fun loaded => ?_
    cases loaded with
    | error => exact forward_pure _
    | ok snapshot =>
      refine .bind (hsteady.forward_checkpoint w c) fun after => ?_
      cases after with
      | error => exact forward_pure _
      | ok after =>
        dsimp only
        split
        · refine .bind (ch.forward_build _ _ _) fun ⟨built, bitmaps⟩ => ?_
          cases built <;> exact forward_pure _
        · exact forward_pure _

/-- No time runs backwards in a tick of the watcher. -/
theorem forward_tick (w : ReloadWatcher) (c : FieldContext) :
    Forward ch.clock (w.tick c : StateM σ ReloadTick) := by
  intro s t s' h
  cases ReloadWatcher.tick_exits h with
  | rest hrest =>
    cases hrest with
    | disabled => exact Nat.le_refl _
    | unasked hprobe => exact ch.forward_shouldLook _ _ _ _ hprobe
    | unstatted hlook | armed hlook | settled hlook | deferred hlook =>
      exact ch.clock_le_of_looks hlook
  | reload hlook _ _ hreload =>
    exact Nat.le_trans (ch.clock_le_of_looks hlook)
      (hsteady.forward_reload _ _ _ _ _ _ hreload.yields_reload)

/-- No time runs backwards while a probe is chosen. -/
theorem forward_ofMode (mode : WatchMode) (root : Option FilePath) :
    Forward ch.clock (ChangeProbe.ofMode mode root : StateM σ ChangeProbe) := by
  unfold ChangeProbe.ofMode
  split
  · refine .bind (hsteady.observe_forward _) fun observed => ?_
    cases observed <;> exact forward_pure _
  · exact forward_pure _

variable (s : Session Empty)

/-- No time runs backwards in a transfer. -/
theorem forward_transfer (target : UInt32) (x y : Int) :
    Forward ch.clock (s.transfer target x y : StateM σ _) := by
  refine .bind (ch.forward_transferAll _ _ _ _) fun hooks => ?_
  dsimp only
  split
  · exact forward_pure _
  · split
    · exact ch.forward_arrive _ _ _ _ _
    · refine .bind (hsteady.forward_loadFile _ _ _) fun loaded => ?_
      cases loaded with
      | error => exact forward_pure _
      | ok record => exact ch.forward_arrive _ _ _ _ _

/-- No time runs backwards while a transfer that is pending is carried out. -/
theorem forward_settleTransfer :
    Forward ch.clock (s.settleTransfer : StateM σ _) := by
  unfold Session.settleTransfer
  split
  · exact forward_pure _
  · refine .bind (hsteady.forward_transfer _ _ _ _) fun ⟨result, s⟩ => ?_
    cases result <;> exact forward_pure _

/-- No time runs backwards in the part of a frame that needs the map on screen. -/
theorem forward_playMap (input : Input) :
    Forward ch.clock (s.playMap input : StateM σ _) := by
  rw [Session.playMap_eq]
  split
  · exact forward_pure _
  · exact .bind (hsteady.forward_settleTransfer _) fun _ => forward_pure _

/-- **No time runs backwards behind the hooks of a frame**, however it ends. -/
theorem clock_le_behind_hooks {s s' : Session Empty} {input : Input}
    {outcome : Except Fault TickOutcome} {hooks : HookRun (Extension Empty)} {a a₁ b : σ}
    (hhooks : Yields (Plugin.updateAll s.plugins input s.context) a hooks a₁)
    (h : Yields (s.update input) a (outcome, s') b) : ch.clock a₁ ≤ ch.clock b := by
  rw [Session.update_eq] at h
  obtain ⟨hooks', a₂, hhooks', h⟩ := yields_bind.mp h
  obtain ⟨rfl, rfl⟩ := hhooks.unique hhooks'
  refine (?_ : Forward ch.clock _) _ _ _ h
  split
  · exact forward_pure _
  · split
    · exact hsteady.forward_playMap _ _
    · exact forward_pure _

end Steady

end Chronicle

end Overworld
