import Overworld.Interpreter.Target
import Overworld.Interpreter.World
import Overworld.Script.Run

/-!
# Scripts in the field

The functions that the field lends to a script, and what running a script of a list
means: what it wrote stays written however it ends, and the last call that succeeded
is what runs next. A call that was too deep counts even if the script caught it.
-/

namespace Overworld

/-- On whose behalf a script runs. -/
structure ScriptCaller where
  depth : UInt32
  limit : UInt32
  event : UInt32
  deriving Inhabited

/-- What a running script has done. -/
structure ScriptState where
  world : World
  child : Option Frame := none
  tooDeep : Option Fault := none
  deriving Inhabited

namespace ScriptState

/-- Calls an event. -/
def call (caller : ScriptCaller) (target : CallTarget) :
    ExceptT Script.Value (StateM ScriptState) Script.Value := do
  match target.childFrame (← get).world.map caller.depth caller.limit with
  | .ok (some child) =>
    modify fun s => { s with child := some child }
    return .bool true
  | .ok none => return .bool false
  | .error fault =>
    modify fun s => { s with tooDeep := some fault }
    throw (.text fault.message)

/-- Reads the world. -/
def ask (f : World → Script.Value) : ExceptT Script.Value (StateM ScriptState) Script.Value := do
  return f (← get).world

/-- Changes the world. -/
def tell (f : World → World) : ExceptT Script.Value (StateM ScriptState) Script.Value := do
  modify fun s => { s with world := f s.world }
  return .unit

end ScriptState

open ScriptState in
/-- The functions that a script may call. Numbers that are no ids name no event. -/
def scriptLibrary (caller : ScriptCaller) : Script.Library ScriptState
  | "call_event", [.text name] => some (call caller (.name name))
  | "call_event_by_id", [.int n] => some <|
    match Instruction.idOfInt? n with
    | some id => call caller (.id id)
    | none => return .bool false
  | "can_call_event", [.text name] => some (ask fun w => .bool (CallTarget.canCall w.map (.name name)))
  | "can_call_event_by_id", [.int n] => some <| ask fun w =>
    .bool ((Instruction.idOfInt? n).any fun id => CallTarget.canCall w.map (.id id))
  | "get_others_self_switch", [.text name, .text switch] => some <|
    ask fun w => .bool (w.switchOf name switch)
  | "set_others_self_switch", [.text name, .text switch, .bool value] => some <|
    tell fun w => w.setSwitchOf name switch value
  | "event_id", [] => some (ask fun _ => .int caller.event.toNat)
  | "log", [.text text] => some (tell fun w => w.notify (.scriptLog caller.event text))
  | _, _ => none

/-- What a finished script leads to: a fault, or the frame to run next. -/
def ScriptState.result (s : ScriptState) (event : UInt32) :
    Except Script.Failure Script.Value → Except Fault (Option Frame)
  | outcome =>
    match s.tooDeep, outcome with
    | some fault, _ => .error fault
    | none, .error failure => .error (.script event failure.message)
    | none, .ok _ => .ok s.child

/-- Runs a script. One that cannot be read does nothing. -/
def runScript (source : String) (caller : ScriptCaller) (w : World) :
    Except Fault (Option Frame) × World :=
  match Script.Program.read source with
  | .error refusal => (.error (.script caller.event refusal.message), w)
  | .ok program =>
    let (outcome, s) := (program.run (scriptLibrary caller)).run { world := w }
    (s.result caller.event outcome, s.world)

end Overworld
