import Mathlib
import Overworld.Proofs.Data.Chronicle
import Overworld.Proofs.Interpreter.Loop
import Overworld.Proofs.Session.Hooks
import Overworld.Proofs.Session.Parts
import Overworld.Session.Run

/-!
# Notices of switches

Commands, scripts and the host write self switches, and every write is noticed in its place. So a
host that repeats the writes it is told of, in the order in which it is told, has the same self
switches as the session, whatever else happens to the session in between.
-/

namespace Overworld

open Relation

/-- The self switches of a host that does what a notice says. -/
def Notice.repeated (s : SelfSwitches) : Notice → SelfSwitches
  | .selfSwitchChanged key value => s.set key value
  | _ => s

/-- The self switches of a host that does what these notices say, one after the other. -/
def NoticeBoard.replay (notices : NoticeBoard) (s : SelfSwitches) : SelfSwitches :=
  notices.foldl Notice.repeated s

/-- The self switches and what the host has been told. -/
structure Ledger where
  switches : SelfSwitches
  notices : NoticeBoard

/-- The ledger of a world. -/
def World.ledger (w : World) : Ledger := ⟨w.switches, w.notices⟩

/-- The ledger of a context. -/
def FieldContext.ledger (c : FieldContext) : Ledger := ⟨c.switches, c.notices⟩

namespace Ledger

/-- From one ledger to another the host has been told of every write, and of nothing else. -/
def Tells (l l' : Ledger) : Prop :=
  ∃ told : NoticeBoard, l'.notices = l.notices ++ told ∧ l'.switches = told.replay l.switches

variable {l l' l'' : Ledger}

/-- Nothing is written and nothing is told. -/
theorem Tells.refl (l : Ledger) : l.Tells l := ⟨[], (List.append_nil _).symm, rfl⟩

/-- What is told twice in a row is told. -/
theorem Tells.trans (h : l.Tells l') (h' : l'.Tells l'') : l.Tells l'' := by
  obtain ⟨told, hnotices, hswitches⟩ := h
  obtain ⟨told', hnotices', hswitches'⟩ := h'
  refine ⟨told ++ told', by rw [hnotices', hnotices, List.append_assoc], ?_⟩
  rw [hswitches', hswitches, NoticeBoard.replay, NoticeBoard.replay, NoticeBoard.replay,
    List.foldl_append]

/-- A notice that is no write of a switch tells of nothing. -/
theorem Tells.notify (l : Ledger) {notice : Notice}
    (hquiet : notice.repeated l.switches = l.switches) :
    l.Tells ⟨l.switches, l.notices ++ [notice]⟩ :=
  ⟨[notice], rfl, hquiet.symm⟩

/-- A write that is noticed is told. -/
theorem Tells.set (l : Ledger) (key : SwitchKey) (value : Bool) :
    l.Tells ⟨l.switches.set key value, l.notices ++ [.selfSwitchChanged key value]⟩ :=
  ⟨[.selfSwitchChanged key value], rfl, rfl⟩

end Ledger

/-- A step of a world tells of what it writes. -/
theorem World.Step.tells {w w' : World} (h : World.Step w w') : w.ledger.Tells w'.ledger := by
  cases h with
  | log event text => exact .notify w.ledger rfl
  | refresh | transfer => exact .refl _
  | assign event switch value => exact .set w.ledger _ value

/-- Steps of a world, one after the other, tell of what they write. -/
theorem World.Steps.tells {w w' : World} (h : World.Steps w w') : w.ledger.Tells w'.ledger := by
  induction h with
  | refl => exact .refl _
  | tail _ hstep ih => exact ih.trans hstep.tells

/-- A tick of the interpreter tells of what it writes, also if it fails. -/
theorem Interpreter.update_tells (i : Interpreter) (w : World) :
    w.ledger.Tells (i.update w).2.2.ledger := by
  rw [Interpreter.update_eq]
  exact (i.tick_steps w).tells

/-- An overlay writes no switch. -/
theorem Overlay.Leaves.tells {c c' : FieldContext} (h : Leaves c c') : c.ledger.Tells c'.ledger := by
  cases h with
  | silent => exact .refl c.ledger
  | shown | hidden => exact .notify c.ledger rfl

section

variable {σ : Type} [DataSource (StateM σ)] [BitmapLoader (StateM σ)]

/-- A tick of the reload watcher writes no switch. -/
theorem ReloadWatcher.tick_tells {w : ReloadWatcher} {c : FieldContext} {t : ReloadTick} {s s' : σ}
    (h : Yields (w.tick c) s t s') : c.ledger.Tells t.context.ledger := by
  cases tick_exits h with
  | rest hrest => cases hrest <;> exact .refl _
  | reload _ _ _ hreload => cases hreload <;> exact .notify c.ledger rfl

variable {ε : Type} [Plugin (StateM σ) ε]

/-- The hooks of a host's plugins tell of what they write. -/
structure Plugin.TellsAll (σ ε : Type) [Plugin (StateM σ) ε] : Prop where
  update {plugin : ε} {input : Input} {c : FieldContext} {hooked : Hooked ε} {a b : σ} :
    Yields (Plugin.update plugin input c) a hooked b → c.ledger.Tells hooked.context.ledger
  onTransfer {plugin : ε} {source target : UInt32} {c : FieldContext} {hooked : Hooked ε}
    {a b : σ} : Yields (Plugin.onTransfer plugin source target c) a hooked b →
      c.ledger.Tells hooked.context.ledger

omit [DataSource (StateM σ)] [BitmapLoader (StateM σ)] in
/-- A host without plugins writes nothing through them. -/
theorem Plugin.tellsAll_empty : Plugin.TellsAll σ Empty where
  update {plugin} := plugin.elim
  onTransfer {plugin} := plugin.elim

/-- Every part of a frame tells of what it writes. -/
theorem Session.frameParts_tells (hplugins : Plugin.TellsAll σ ε) :
    Session.FrameParts σ ε fun c c' => c.ledger.Tells c'.ledger where
  refl c := .refl _
  trans := .trans
  screen c _ _ _ := .refl c.ledger
  scroll c := .refl c.ledger
  enter c _ _ := .refl c.ledger
  arrived c _ _ _ _ := .notify c.ledger rfl
  transferHook {plugin _ _ c hooked _ _} h := by
    cases plugin with
    | reload w =>
      obtain ⟨rfl, -⟩ := yields_pure.mp h
      exact .refl _
    | overlay o =>
      obtain ⟨rfl, -⟩ := yields_pure.mp h
      exact (o.onTransfer_leaves c).tells
    | custom p =>
      obtain ⟨part, hpart, rfl⟩ := yields_map.mp h
      exact hplugins.onTransfer hpart
  refresh c := .refl c.ledger
  interpret s := by
    have htick := s.interpreter.update_tells s.world
    unfold Session.runInterpreter
    split
    · rename_i hupdate
      rwa [hupdate] at htick
    · rename_i hupdate
      rwa [hupdate] at htick
  updateHook {plugin input c hooked _ _} h := by
    cases plugin with
    | reload w =>
      obtain ⟨t, htick, rfl⟩ := Extension.yields_update_reload.mp h
      exact ReloadWatcher.tick_tells htick
    | overlay o =>
      obtain ⟨rfl, -⟩ := yields_pure.mp h
      exact (o.onUpdate_leaves input c).tells
    | custom p =>
      obtain ⟨part, hpart, rfl⟩ := yields_map.mp h
      exact hplugins.update hpart

/-- What can happen to the self switches and the notices of a session. The rest of the session, its
surroundings included, may be any every time. -/
inductive Ledger.Step (σ ε : Type) [DataSource (StateM σ)] [BitmapLoader (StateM σ)]
    [Plugin (StateM σ) ε] : Ledger → Ledger → Prop
  | ticked (i : Interpreter) (w : World) : Step σ ε w.ledger (i.update w).2.2.ledger
  | updated {s s' : Session ε} {input : Input} {outcome : Except Fault TickOutcome} {a b : σ}
      (h : Yields (s.update input) a (outcome, s') b) : Step σ ε s.context.ledger s'.context.ledger
  | reloaded {w : ReloadWatcher} {c : FieldContext} {t : ReloadTick} {a b : σ}
      (h : Yields (w.tick c) a t b) : Step σ ε c.ledger t.context.ledger
  | transferred {s s' : Session ε} {target : UInt32} {x y : Int} {result : Except Fault Unit}
      {a b : σ} (h : Yields (s.transfer target x y) a (result, s') b) :
      Step σ ε s.context.ledger s'.context.ledger
  | switched (s : Session ε) (name switch : String) (value : Bool) :
      Step σ ε s.context.ledger (s.setSwitchOf name switch value).context.ledger

/-- Whatever happens, the host is told of every write. -/
theorem Ledger.Step.tells {l l' : Ledger} (hplugins : Plugin.TellsAll σ ε)
    (h : Ledger.Step σ ε l l') : l.Tells l' := by
  cases h with
  | ticked i w => exact i.update_tells w
  | updated h => exact (Session.frameParts_tells hplugins).update h
  | reloaded h => exact ReloadWatcher.tick_tells h
  | transferred h => exact (Session.frameParts_tells hplugins).transfer h
  | switched s name switch value => exact .set s.context.ledger _ value

/-- In a run the host is told of every write. -/
theorem Ledger.tells_of_run {l l' : Ledger} (hplugins : Plugin.TellsAll σ ε)
    (h : ReflTransGen (Ledger.Step σ ε) l l') : l.Tells l' := by
  induction h with
  | refl => exact .refl _
  | tail _ hstep ih => exact ih.trans (hstep.tells hplugins)

/-- **The notices replay to the self switches.** In a run of ticks, frames, reloads, transfers and
writes of the host that starts without notices, the writes that the host has been told of, repeated
in their order on the self switches of the beginning, give those of the end. Plugins of the host may
write switches too, as long as they tell of it. -/
theorem replay_notices_eq_switches (hplugins : Plugin.TellsAll σ ε) {before after : SelfSwitches}
    {notices : NoticeBoard}
    (h : ReflTransGen (Ledger.Step σ ε) ⟨before, []⟩ ⟨after, notices⟩) :
    notices.replay before = after := by
  obtain ⟨told, hnotices, hswitches⟩ := Ledger.tells_of_run hplugins h
  have htold : notices = told := hnotices.trans (List.nil_append told)
  rw [htold]
  exact hswitches.symm

end

/-- The list of an event that sets its own switch, and then runs a script that sets a switch of
nobody before it fails. -/
private def torchList : List Instruction :=
  [{ code := 123, parameters := [.str "A", .int 0] },
    { code := 355
      parameters := [.str "set_others_self_switch(\"nobody\", \"B\", true); log(\"out\"); throw 1"] }]

/-- A session with the event. -/
private def torchSession : Session Empty :=
  let map : FieldMap := { id := 3, events := .ofList [.ofList 1 "torch" torchList] }
  { context :=
      { layout := { tablePath := fun kind => ⟨kind.fileName⟩, mapPath := fun _ => ⟨"map"⟩
                    watchRoot := none }
        snapshot := { map }, scene := .other .title }
    interpreter := ((Interpreter.ofConfig 0 {}).setupEvent map 1).2 }

/-- The world of the event after the host has switched it off. -/
private def torchWorld : World := (torchSession.setSwitchOf "torch" "A" false).world

/-- The world after a tick of the event. -/
private def burntWorld : World := (torchSession.interpreter.update torchWorld).2.2

private instance : BitmapLoader (StateM StillFiles) := .blank

/-- The host switches the event off, and the event switches itself on and fails in its script. Three
writes are noticed, and they replay to the two switches that there are at the end. -/
theorem torch_replays :
    Plugin.TellsAll StillFiles Empty ∧
    ReflTransGen (Ledger.Step StillFiles Empty) ⟨{}, []⟩ ⟨burntWorld.switches, burntWorld.notices⟩ ∧
    (torchSession.interpreter.update torchWorld).1.isOk = false ∧
    burntWorld.notices =
      [.selfSwitchChanged ⟨3, some 1, "A"⟩ false, .selfSwitchChanged ⟨3, some 1, "A"⟩ true,
        .selfSwitchChanged ⟨3, none, "B"⟩ true, .scriptLog 1 "out"] ∧
    NoticeBoard.replay burntWorld.notices {} = burntWorld.switches ∧
    burntWorld.switches.entries = [(⟨3, some 1, "A"⟩, true), (⟨3, none, "B"⟩, true)] := by
  have hswitched : Ledger.Step StillFiles Empty torchSession.context.ledger torchWorld.ledger :=
    .switched torchSession "torch" "A" false
  have hticked : Ledger.Step StillFiles Empty torchWorld.ledger burntWorld.ledger :=
    .ticked torchSession.interpreter torchWorld
  have hrun : ReflTransGen (Ledger.Step StillFiles Empty) ⟨{}, []⟩
      ⟨burntWorld.switches, burntWorld.notices⟩ :=
    ReflTransGen.tail (.single hswitched) hticked
  exact ⟨Plugin.tellsAll_empty, hrun, by decide +kernel, by decide +kernel,
    replay_notices_eq_switches Plugin.tellsAll_empty hrun, by decide +kernel⟩

end Overworld
