import Mathlib.Logic.Relation
import Overworld.Proofs.Interpreter.ScriptRequests
import Overworld.Proofs.Script.HostSteps

/-!
# What scripts do to a world

Everything that happens to a world during a tick is made of four kinds of steps. A script
that runs to its end or fails on the way is a sequence of calls, each of which is at most
one such step, or keeps the frame of an event that can be called.
-/

namespace Overworld

open Relation

/-- What one command, or one call that a script makes, can do to a world. -/
inductive World.Step (w : World) : World → Prop
  | log (event : UInt32) (text : String) : Step w (w.notify (.scriptLog event text))
  | refresh : Step w w.requestRefresh
  | assign (event : Option UInt32) (switch : String) (value : Bool) :
      Step w (w.setSwitch event switch value)
  | transfer (request : TransferRequest) : Step w { w with transfer := some request }

/-- What commands and calls of scripts can do to a world, one after the other. -/
abbrev World.Steps : World → World → Prop := ReflTransGen World.Step

/-- Two maps that differ at most in whether they are to be refreshed. -/
def FieldMap.AgreesWith (m m' : FieldMap) : Prop := m' = { m with needRefresh := m'.needRefresh }

/-- Maps that differ at most in whether they are to be refreshed, one after the other. -/
theorem FieldMap.AgreesWith.trans {m m' m'' : FieldMap} (h : m.AgreesWith m')
    (h' : m'.AgreesWith m'') : m.AgreesWith m'' := by
  unfold FieldMap.AgreesWith at h h' ⊢
  rw [h', h]

/-- No step changes a map in anything but the request for a refresh. -/
theorem World.Step.map_agrees {w w' : World} (h : World.Step w w') : w.map.AgreesWith w'.map := by
  cases h <;> rfl

/-- No tick changes a map in anything but the request for a refresh. -/
theorem World.Steps.map_agrees {w w' : World} (h : World.Steps w w') :
    w.map.AgreesWith w'.map := by
  induction h with
  | refl => rfl
  | tail _ hstep ih => exact ih.trans hstep.map_agrees

/-- A call reads nothing of a map that a tick changes. -/
theorem CallTarget.childFrame_congr {m m' : FieldMap} (h : m.AgreesWith m') (target : CallTarget)
    (depth limit : UInt32) : target.childFrame m' depth limit = target.childFrame m depth limit := by
  unfold FieldMap.AgreesWith at h
  rw [h]
  cases target <;> rfl

/-- What one call can do to the state of a script. -/
inductive ScriptState.Step (caller : ScriptCaller) (s : ScriptState) : ScriptState → Prop
  | ask : Step caller s s
  | call {target : CallTarget} {child : Frame}
      (hchild : target.childFrame s.world.map caller.depth caller.limit = .ok (some child)) :
      Step caller s { s with child := some child }
  | tooDeep {target : CallTarget} {fault : Fault}
      (hfault : target.childFrame s.world.map caller.depth caller.limit = .error fault) :
      Step caller s { s with tooDeep := some fault }
  | write (name switch : String) (value : Bool) :
      Step caller s { s with world := s.world.setSwitchOf name switch value }
  | log (text : String) :
      Step caller s { s with world := s.world.notify (.scriptLog caller.event text) }

/-- The calls of a script, one after the other. -/
abbrev ScriptState.Steps (caller : ScriptCaller) : ScriptState → ScriptState → Prop :=
  ReflTransGen (ScriptState.Step caller)

section

variable {caller : ScriptCaller} {s s' : ScriptState} {answer : Except Script.Value Script.Value}

/-- However a request is answered, it is a step of the script. -/
theorem ScriptState.Serves.step {deed : Deed} (h : ScriptState.Serves caller s deed answer s') :
    ScriptState.Step caller s s' := by
  cases h with
  | called hchild => exact .call hchild
  | tooDeep hfault => exact .tooDeep hfault
  | wrote name switch value => exact .write name switch value
  | logged text => exact .log text
  | notCalled | queried => exact .ask

/-- The functions that the field lends to scripts do no more than the steps of a script. -/
theorem scriptLibrary_does (caller : ScriptCaller) :
    (scriptLibrary caller).Does (ScriptState.Step caller) := by
  intro name arguments function s s' answer hknown h
  exact (scriptLibrary_serves hknown h).step

/-- A call is at most one step of the world. -/
theorem ScriptState.Step.world_steps (h : ScriptState.Step caller s s') :
    World.Steps s.world s'.world := by
  cases h with
  | ask | call | tooDeep => exact .refl
  | write name switch value => exact .single (.assign ..)
  | log text => exact .single (.log ..)

/-- The calls of a script are steps of the world. -/
theorem ScriptState.Steps.world_steps (h : ScriptState.Steps caller s s') :
    World.Steps s.world s'.world := by
  induction h with
  | refl => exact .refl
  | tail _ hstep ih => exact ih.trans hstep.world_steps

/-- The child that a script has kept is the frame of an event that could be called when the script
began. -/
theorem ScriptState.Steps.child_of {w : World} {child : Frame}
    (h : ScriptState.Steps caller { world := w } s) (hchild : s.child = some child) :
    ∃ target : CallTarget, target.childFrame w.map caller.depth caller.limit = .ok (some child) := by
  induction h with
  | refl => cases hchild
  | tail hsteps hstep ih =>
    cases hstep with
    | ask | tooDeep | write | log => exact ih hchild
    | @call target called hcalled =>
      cases hchild
      have hmap := (ScriptState.Steps.world_steps hsteps).map_agrees
      exact ⟨target, by rw [← hcalled, CallTarget.childFrame_congr hmap]⟩

/-- What a finished script runs next is the child that it has kept. -/
theorem ScriptState.child_of_result {event : UInt32} {child : Frame}
    {outcome : Except Script.Failure Script.Value}
    (h : s.result event outcome = .ok (some child)) : s.child = some child := by
  cases hdeep : s.tooDeep <;> cases outcome <;> simp [result, hdeep] at h
  exact h

/-- A script is a sequence of calls. -/
theorem runScript_steps {source : String} {w w' : World} {result : Except Fault (Option Frame)}
    (h : runScript source caller w = (result, w')) :
    ∃ s, ScriptState.Steps caller { world := w } s ∧ w' = s.world ∧
      ∀ child, result = .ok (some child) → s.child = some child := by
  unfold runScript at h
  split at h
  · obtain ⟨rfl, rfl⟩ := Prod.mk.inj h
    exact ⟨_, .refl, rfl, fun child hchild => by cases hchild⟩
  · rename_i program _
    obtain ⟨outcome, s, hrun⟩ : ∃ outcome s,
        Yields (program.run (scriptLibrary caller)) { world := w } outcome s :=
      ⟨_, _, yields_run ..⟩
    have hresult : (s.result caller.event outcome, s.world) = (result, w') := by
      rw [← h, show (program.run (scriptLibrary caller)).run { world := w } = (outcome, s) from hrun]
    obtain ⟨rfl, rfl⟩ := Prod.mk.inj hresult
    refine ⟨s, Script.Program.run_steps (scriptLibrary_does caller) hrun, rfl, ?_⟩
    intro child hchild
    exact ScriptState.child_of_result hchild

end

end Overworld
