import Mathlib
import Overworld.Proofs.Interpreter.TransferSlot
import Overworld.Proofs.Session.Course

/-!
# Transfers that commands ask for

A command that asks for a transfer ends its tick, and the frame carries the transfer out before it
ends itself. Between frames no request is pending: a frame that executes no such command begins and
ends without one, however it ends, and the frame that executes one takes the request out of its slot
before it sends the player off.
-/

namespace Overworld

namespace Session

section

variable {ε : Type}

/-- The commands that a frame executes behind its hooks. There are none if a hook has stopped the
frame or the map is not on screen. -/
def executed (s : Session ε) (hooks : HookRun (Extension ε)) : List Command :=
  if hooks.result.isOk && hooks.context.scene.isMap then
    (s.looked hooks).refreshIfNeeded.interpreter.commands (s.looked hooks).refreshIfNeeded.world
  else []

/-- What a frame comes to behind its hooks if nobody asks for a transfer. -/
def resumed (s : Session ε) (hooks : HookRun (Extension ε)) (input : Input) :
    Except Fault TickOutcome × Session ε :=
  match hooks.result with
  | .error fault => (.error fault, s.looked hooks)
  | .ok () =>
    if hooks.context.scene.isMap then (s.looked hooks).play input else (.ok .idle, s.looked hooks)

/-- The session when the tick of a frame has ended, with no request pending. The player has not
reacted to the input. -/
def ticked (s : Session ε) (hooks : HookRun (Extension ε)) : Session ε :=
  { (s.looked hooks).refreshIfNeeded.runInterpreter.2.refreshIfNeeded with pendingTransfer := none }

variable {s s' : Session ε}

/-- A tick of the interpreter ends as its turns do, and leaves the request that they leave. -/
theorem runInterpreter_slot (s : Session ε) :
    s.runInterpreter.1 = (s.interpreter.tick s.world).result ∧
      s.runInterpreter.2.pendingTransfer = (s.interpreter.tick s.world).world.transfer := by
  unfold runInterpreter
  rw [Interpreter.update_eq]
  cases (s.interpreter.tick s.world).result <;> exact ⟨rfl, rfl⟩

/-- The reaction to the input asks for no transfer. -/
theorem reactToInput_pending (s : Session ε) (input : Input) :
    (s.reactToInput input).pendingTransfer = s.pendingTransfer := by
  unfold reactToInput
  simp only
  split
  · split <;> rfl
  · rfl

/-- Without a request from the tick none is pending when the player has reacted. -/
theorem play_pending (h : s.refreshIfNeeded.runInterpreter.2.pendingTransfer = none)
    (input : Input) : (s.play input).2.pendingTransfer = none := by
  unfold play
  cases hrun : s.refreshIfNeeded.runInterpreter with
  | mk result s₁ =>
    rw [hrun] at h
    cases result with
    | error fault => exact h
    | ok outcome =>
      have hagain : s₁.refreshIfNeeded.pendingTransfer = none := h
      simp only
      split
      · exact hagain
      · exact (reactToInput_pending ..).trans hagain

/-- With a request from the tick the player does not react to the input. -/
theorem play_of_request {request : TransferRequest} {outcome : TickOutcome}
    (hresult : s.refreshIfNeeded.runInterpreter.1 = .ok outcome)
    (hrequest : s.refreshIfNeeded.runInterpreter.2.pendingTransfer = some request)
    (input : Input) :
    s.play input = (.ok outcome, s.refreshIfNeeded.runInterpreter.2.refreshIfNeeded) := by
  unfold play
  cases hrun : s.refreshIfNeeded.runInterpreter with
  | mk result s₁ =>
    rw [hrun] at hresult hrequest
    obtain rfl : result = .ok outcome := hresult
    have hagain : s₁.refreshIfNeeded.pendingTransfer = some request := hrequest
    simp only [hagain, Option.isSome_some, Bool.or_true, if_true]

variable {σ : Type} [DataSource (StateM σ)] [BitmapLoader (StateM σ)] [Plugin (StateM σ) ε]
  {outcome : Except Fault TickOutcome} {input : Input} {a b : σ}

/-- The ways in which a frame ends behind its hooks. -/
inductive EndsFrame (s : Session ε) (hooks : HookRun (Extension ε)) (input : Input) (a : σ) :
    Except Fault TickOutcome → Session ε → σ → Prop
  /-- No command asks for a transfer, and nobody is sent anywhere. -/
  | stays {outcome : Except Fault TickOutcome} {s' : Session ε}
      (hno : ∀ request, .transfer (some request) ∉ s.executed hooks)
      (hends : s.resumed hooks input = (outcome, s')) : EndsFrame s hooks input a outcome s' a
  /-- The last command, and only that, asks for a transfer, and this is carried out. -/
  | travels {before : List Command} {request : TransferRequest} {result : Except Fault Unit}
      {s' : Session ε} {b : σ}
      (hexecuted : s.executed hooks = before ++ [.transfer (some request)])
      (hbefore : ∀ other, .transfer (some other) ∉ before)
      (htransfer : Yields ((s.ticked hooks).transfer request.map request.x request.y) a
        (result, s') b) :
      EndsFrame s hooks input a (result.map fun _ => .yielded)
        (if result.isOk then s'.face request.direction else s') b

/-- A transfer leaves alone what is pending. -/
theorem transfer_pending {target : UInt32} {x y : Int} {result : Except Fault Unit}
    (h : Yields (s.transfer target x y) a (result, s') b) :
    s'.pendingTransfer = s.pendingTransfer := by
  cases transfer_exits h <;> rfl

/-- The part of a frame that needs the map on screen ends in one of these ways. -/
theorem playMap_ends {hooks : HookRun (Extension ε)} (hempty : s.pendingTransfer = none)
    (hok : hooks.result = .ok ()) (hscene : hooks.context.scene.isMap = true)
    (h : Yields ((s.looked hooks).playMap input) a (outcome, s') b) :
    s'.pendingTransfer = none ∧ s.EndsFrame hooks input a outcome s' b := by
  have hexecuted : s.executed hooks = (s.looked hooks).refreshIfNeeded.interpreter.commands
      (s.looked hooks).refreshIfNeeded.world := by
    simp only [executed, hok, hscene, Except.isOk, Except.toBool, Bool.and_self, if_true]
  have hresumed : s.resumed hooks input = (s.looked hooks).play input := by
    simp only [resumed, hok, hscene, if_true]
  obtain ⟨hresult, hslot⟩ := runInterpreter_slot (s.looked hooks).refreshIfNeeded
  rw [playMap_eq] at h
  rcases (s.looked hooks).refreshIfNeeded.interpreter.tick_transfer
      (s.looked hooks).refreshIfNeeded.world with
    ⟨hno, hkept⟩ | ⟨before, request, hcommands, hbefore, hyielded, hrequest⟩
  · have hpending := play_pending (hslot.trans (hkept.trans hempty)) input
    obtain ⟨⟨ended, s₁⟩, hplayed⟩ : ∃ played, (s.looked hooks).play input = played := ⟨_, rfl⟩
    rw [hplayed] at h hpending hresumed
    cases ended with
    | error fault =>
      obtain ⟨rfl, rfl, rfl⟩ := yields_pair.mp h
      exact ⟨hpending, .stays (hexecuted ▸ hno) hresumed⟩
    | ok ended =>
      have hnone : s₁.pendingTransfer = none := hpending
      have hsettle : (s₁.settleTransfer : StateM σ (Except Fault Unit × Session ε)) =
          pure (.ok (), s₁) := by
        simp only [settleTransfer, hnone]
      simp only [hsettle, pure_bind, yields_pair] at h
      obtain ⟨rfl, rfl, rfl⟩ := h
      exact ⟨hpending, .stays (hexecuted ▸ hno) hresumed⟩
  · have hpending := hslot.trans hrequest
    rw [play_of_request (hresult.trans hyielded) hpending] at h
    have hagain : (s.looked hooks).refreshIfNeeded.runInterpreter.2.refreshIfNeeded.pendingTransfer
        = some request := hpending
    simp only [settleTransfer, hagain, yields_bind] at h
    obtain ⟨⟨settled, s₂⟩, a₁, ⟨⟨result, s₃⟩, a₂, htransfer, hsettled⟩, h⟩ := h
    have hends : s.EndsFrame hooks input a (result.map fun _ => .yielded)
        (if result.isOk then s₃.face request.direction else s₃) a₂ :=
      .travels (hexecuted.trans hcommands) hbefore htransfer
    have hnone : s₃.pendingTransfer = none := transfer_pending htransfer
    cases result with
    | error fault =>
      obtain ⟨rfl, rfl, rfl⟩ := yields_pair.mp hsettled
      obtain ⟨rfl, rfl, rfl⟩ := yields_pair.mp h
      exact ⟨hnone, hends⟩
    | ok =>
      obtain ⟨rfl, rfl, rfl⟩ := yields_pair.mp hsettled
      obtain ⟨rfl, rfl, rfl⟩ := yields_pair.mp h
      exact ⟨hnone, hends⟩

/-- A frame that begins without a request ends without one, in one of these ways. -/
theorem update_ends (hempty : s.pendingTransfer = none)
    (h : Yields (s.update input) a (outcome, s') b) :
    s'.pendingTransfer = none ∧
      ∃ hooks a₁, Yields (Plugin.updateAll s.plugins input s.context) a hooks a₁ ∧
        s.EndsFrame hooks input a₁ outcome s' b := by
  rw [update_eq] at h
  obtain ⟨hooks, a₁, hhooks, h⟩ := yields_bind.mp h
  have hnone : (hooks.result.isOk && hooks.context.scene.isMap) = false →
      ∀ request, .transfer (some request) ∉ s.executed hooks := by
    intro hoff request
    rw [executed, hoff, if_neg Bool.false_ne_true]
    exact List.not_mem_nil
  cases hresult : hooks.result with
  | error fault =>
    simp only [hresult, yields_pair] at h
    obtain ⟨rfl, rfl, rfl⟩ := h
    refine ⟨hempty, hooks, _, hhooks, .stays (hnone ?_) ?_⟩
    · rw [hresult]
      rfl
    · simp only [resumed, hresult]
  | ok =>
    cases hscene : hooks.context.scene.isMap with
    | false =>
      simp only [hresult, hscene, Bool.false_eq_true, if_false, yields_pair] at h
      obtain ⟨rfl, rfl, rfl⟩ := h
      refine ⟨hempty, hooks, _, hhooks, .stays (hnone ?_) ?_⟩
      · rw [hscene, Bool.and_false]
      · simp only [resumed, hresult, hscene, Bool.false_eq_true, if_false]
    | true =>
      simp only [hresult, hscene, if_true] at h
      obtain ⟨hpending, hends⟩ := playMap_ends hempty hresult hscene h
      exact ⟨hpending, hooks, a₁, hhooks, hends⟩

/-- The sessions in the hands of a host: new ones, and what frames, transfers and the calls that are
open to the host make of them, whether these fail or not. Between such calls the context and the
plugins are the host's to change. The surroundings may be any every time. -/
inductive Hosted (σ : Type) [DataSource (StateM σ)] [BitmapLoader (StateM σ)]
    [Plugin (StateM σ) ε] : Session ε → Prop
  | started {config : FieldConfig} {layout : DataLayout} {debug : Bool} {s : Session ε} {a b : σ}
      (h : Yields (Session.start config layout debug) a (.ok s) b) : Hosted σ s
  | updated {s s' : Session ε} {input : Input} {outcome : Except Fault TickOutcome} {a b : σ}
      (hs : Hosted σ s) (h : Yields (s.update input) a (outcome, s') b) : Hosted σ s'
  | transferred {s s' : Session ε} {target : UInt32} {x y : Int} {result : Except Fault Unit}
      {a b : σ} (hs : Hosted σ s) (h : Yields (s.transfer target x y) a (result, s') b) :
      Hosted σ s'
  | eventStarted {s : Session ε} (hs : Hosted σ s) (event : UInt32) :
      Hosted σ (s.startEvent event).2
  | eventCalled {s : Session ε} (hs : Hosted σ s) (target : CallTarget) :
      Hosted σ (s.callEvent target).2
  | changed {s : Session ε} (hs : Hosted σ s) (context : FieldContext)
      (plugins : List (Extension ε)) : Hosted σ { s with context, plugins }

omit [Plugin (StateM σ) ε] in
/-- A session starts without a request. -/
theorem start_pending {config : FieldConfig} {layout : DataLayout} {debug : Bool}
    (h : Yields (Session.start config layout debug) a (.ok s) b) : s.pendingTransfer = none := by
  simp only [start, yields_bind] at h
  obtain ⟨loaded, a₁, -, h⟩ := h
  cases loaded with
  | error fault => cases (yields_pure.mp h).1
  | ok snapshot =>
    obtain ⟨⟨scene, bitmaps⟩, a₂, -, h⟩ := yields_bind.mp h
    cases scene with
    | error fault => cases (yields_pure.mp h).1
    | ok scene =>
      cases (yields_pure.mp h).1
      rfl

/-- No request is pending in the hands of a host. -/
theorem Hosted.pending (h : Hosted σ s) : s.pendingTransfer = none := by
  induction h with
  | started h => exact start_pending h
  | updated _ h ih => exact (update_ends ih h).1
  | transferred _ h ih => exact (transfer_pending h).trans ih
  | eventStarted _ _ ih | eventCalled _ _ ih | changed _ _ _ ih => exact ih

/-- **A transfer that a command asks for is carried out once, in its own frame.** Between frames no
request is pending, however they have ended. If a frame executes a transfer that can be carried out,
that is its last command, the player does not react to the input, and the frame goes on with that
transfer and nothing else. Otherwise the frame sends nobody anywhere. -/
theorem requested_transfer_once (h : Hosted σ s) :
    s.pendingTransfer = none ∧
      ∀ {input : Input} {outcome : Except Fault TickOutcome} {s' : Session ε} {a b : σ},
        Yields (s.update input) a (outcome, s') b →
          s'.pendingTransfer = none ∧
            ∃ hooks a₁, Yields (Plugin.updateAll s.plugins input s.context) a hooks a₁ ∧
              s.EndsFrame hooks input a₁ outcome s' b :=
  ⟨h.pending, fun hupdate => update_ends h.pending hupdate⟩

end

/-- The surroundings of a data set with one map of two tiles. -/
private structure Harbour where

/-- The file of the map. -/
private def harbourPath : FilePath := ⟨"harbour"⟩

/-- The text of the map. -/
private def harbourBytes : Bytes :=
  "\x7b\"tileset_id\":1,\"width\":2,\"height\":1\x7d".toUTF8.toList

/-- The record that the text stands for. -/
private def harbourRecord : MapRecord := { tileset := 1, width := 2, height := 1 }

private instance : DataSource (StateM Harbour) where
  read path := return .ok (if path = harbourPath then harbourBytes else "[]".toUTF8.toList)
  modified _ := return .ok { seconds := 0 }
  observe _ := return false
  noticed := return true
  pause _ := return ()

private instance : BitmapLoader (StateM Harbour) := .blank

/-- Where the files of the data set are. -/
private def harbourLayout : DataLayout :=
  { tablePath := fun _ => ⟨"table"⟩, mapPath := fun _ => harbourPath, watchRoot := none }

/-- What the data set is loaded as. -/
private def harbourSnapshot : Snapshot := { map := FieldMap.ofRecord 1 harbourRecord [] {} }

set_option maxRecDepth 4000 in
/-- The data set is loaded as it is. -/
private theorem load_harbour :
    Yields (Snapshot.load harbourLayout 1 {} : Reading (StateM Harbour) Snapshot).run {}
      (.ok harbourSnapshot) {} := by
  have htables : Yields (DataTables.load harbourLayout :
      Reading (StateM Harbour) DataTables).run {} (.ok {}) {} := by
    unfold Yields
    cbv
  have hmap : Yields (loadMap harbourLayout 1 : Reading (StateM Harbour) MapRecord).run {}
      (.ok harbourRecord) {} := by
    have hread : Json.read MapRecord.shape harbourBytes = .ok harbourRecord := by cbv
    show Yields (pure (decodeMap harbourPath harbourBytes)) _ _ _
    rw [decodeMap, hread]
    exact yields_pure.mpr ⟨rfl, rfl⟩
  exact yields_except_bind.mpr (.inl ⟨_, {}, htables, yields_except_bind.mpr
    (.inl ⟨_, {}, hmap, yields_except_pure.mpr ⟨rfl, rfl⟩⟩)⟩)

/-- A context at the harbour with an event that sends the player to the other tile. -/
private def ferryContext : FieldContext :=
  let ferry : Instruction :=
    { code := 201, parameters := [.int 0, .int 1, .int 1, .int 0, .int 6] }
  let record := { harbourRecord with events := [{ id := 1, pages := [{ list := [ferry] }] }] }
  { layout := harbourLayout
    snapshot := { map := FieldMap.ofRecord 1 record [] {} }
    player := { character := "" }
    scene := .map { map := 1, tileset := .placeholder, characters := [] } }

/-- The session in which the event has been started. -/
private def ferrySession : Session Empty :=
  ({ context := ferryContext, interpreter := .ofConfig 0 {} : Session Empty }.startEvent 1).2

/-- A host can have the session. -/
private theorem hosted_ferry : Hosted Harbour ferrySession := by
  let hero : Bitmap := { width := 32, height := 32, source := "Graphics/Characters/hero" }
  have hscene : Yields (MapScene.build {} harbourSnapshot {}) ({} : Harbour)
      (.ok { map := 1, tileset := .placeholder, characters := [{ event := none, bitmap := hero }] },
        { entries := [({ folder := characterFolder, file := "hero", hue := 0 }, hero)] }) {} := by
    unfold Yields
    cbv
  have hstart : Yields (Session.start {} harbourLayout false :
      StateM Harbour (Except Fault (Session Empty))) ({} : Harbour) _ {} :=
    yields_bind.mpr ⟨_, {}, load_harbour, yields_bind.mpr
      ⟨_, {}, hscene, yields_pure.mpr ⟨rfl, rfl⟩⟩⟩
  exact .eventStarted (.changed (.started hstart) ferryContext []) 1

/-- The event sends the player to the other tile, in the one frame in which it executes its command.
The button that is held does not move the player. -/
theorem requested_transfer_once_ferry :
    ∃ s', Yields (ferrySession.update { held := [.left] }) ({} : Harbour) (.ok .yielded, s')
        {} ∧
      s'.context.player.x = 1 ∧ s'.pendingTransfer = none ∧
      ∃ hooks a, Yields (Plugin.updateAll ferrySession.plugins { held := [.left] }
          ferrySession.context) ({} : Harbour) hooks a ∧
        ferrySession.EndsFrame hooks { held := [.left] } a (.ok .yielded) s' {} := by
  have hupdate : Yields (ferrySession.update { held := [.left] }) ({} : Harbour)
      (.ok .yielded, _) {} := yields_run ..
  refine ⟨_, hupdate, by cbv, ?_⟩
  exact (requested_transfer_once hosted_ferry).2 hupdate

end Session

end Overworld
