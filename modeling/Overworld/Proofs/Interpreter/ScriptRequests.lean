import Overworld.Interpreter.Script
import Overworld.Proofs.Script.Requests

/-!
# The requests of a script to the field

Whatever a script asks the field for is a call of an event, a write of a self switch, a line for the
log, or a question. What becomes of the state of the script is told by which of them it is, and by
the frame that the target of a call has.
-/

namespace Overworld

open Script (Request)

/-- What a request of a script is to the field. -/
inductive Deed where
  | call (target : CallTarget)
  | write (name switch : String) (value : Bool)
  | log (text : String)
  /-- A question, or a call of a number that is no id. -/
  | query

/-- What a request is to the field. -/
def Script.Request.deed (r : Request) : Deed :=
  match r.name, r.arguments with
  | "call_event", [.text name] => .call (.name name)
  | "call_event_by_id", [.int n] =>
    match Instruction.idOfInt? n with
    | some id => .call (.id id)
    | none => .query
  | "set_others_self_switch", [.text name, .text switch, .bool value] => .write name switch value
  | "log", [.text text] => .log text
  | _, _ => .query

/-- The functions that the field lends to scripts, with arguments of the kinds that they take. -/
inductive FieldFunction where
  | callEvent (name : String)
  | callEventById (n : Int)
  | canCallEvent (name : String)
  | canCallEventById (n : Int)
  | getOthersSelfSwitch (name switch : String)
  | setOthersSelfSwitch (name switch : String) (value : Bool)
  | eventId
  | log (text : String)

namespace FieldFunction

/-- The names of the functions. -/
def names : List String :=
  ["call_event", "call_event_by_id", "can_call_event", "can_call_event_by_id",
    "get_others_self_switch", "set_others_self_switch", "event_id", "log"]

/-- The name that a script calls a function by. -/
def name : FieldFunction → String
  | callEvent _ => "call_event"
  | callEventById _ => "call_event_by_id"
  | canCallEvent _ => "can_call_event"
  | canCallEventById _ => "can_call_event_by_id"
  | getOthersSelfSwitch _ _ => "get_others_self_switch"
  | setOthersSelfSwitch _ _ _ => "set_others_self_switch"
  | eventId => "event_id"
  | log _ => "log"

/-- The arguments that a script passes. -/
def arguments : FieldFunction → List Script.Value
  | callEvent text | canCallEvent text | log text => [.text text]
  | callEventById n | canCallEventById n => [.int n]
  | getOthersSelfSwitch name switch => [.text name, .text switch]
  | setOthersSelfSwitch name switch value => [.text name, .text switch, .bool value]
  | eventId => []

/-- What a call of a function is to the field. A number that is no id names no event, so nothing is
called by it. -/
def deed : FieldFunction → Deed
  | callEvent name => .call (.name name)
  | callEventById n => (Instruction.idOfInt? n).elim .query fun id => .call (.id id)
  | setOthersSelfSwitch name switch value => .write name switch value
  | log text => .log text
  | canCallEvent _ | canCallEventById _ | getOthersSelfSwitch _ _ | eventId => .query

/-- Every function has one of the names. -/
theorem name_mem_names (f : FieldFunction) : f.name ∈ names := by
  cases f <;> simp [names, name]

end FieldFunction

/-- A script knows every function of the field. -/
theorem scriptLibrary_knows (caller : ScriptCaller) (f : FieldFunction) :
    (scriptLibrary caller f.name f.arguments).isSome = true := by
  cases f <;> rfl

/-- And nothing else. -/
theorem exists_fieldFunction {caller : ScriptCaller} {name : String}
    {arguments : List Script.Value}
    {function : ExceptT Script.Value (StateM ScriptState) Script.Value}
    (hknown : scriptLibrary caller name arguments = some function) :
    ∃ f : FieldFunction, f.name = name ∧ f.arguments = arguments := by
  unfold scriptLibrary at hknown
  split at hknown
  · exact ⟨.callEvent _, rfl, rfl⟩
  · exact ⟨.callEventById _, rfl, rfl⟩
  · exact ⟨.canCallEvent _, rfl, rfl⟩
  · exact ⟨.canCallEventById _, rfl, rfl⟩
  · exact ⟨.getOthersSelfSwitch _ _, rfl, rfl⟩
  · exact ⟨.setOthersSelfSwitch _ _ _, rfl, rfl⟩
  · exact ⟨.eventId, rfl, rfl⟩
  · exact ⟨.log _, rfl, rfl⟩
  · cases hknown

/-- A request is to the field what the function that it names is. -/
theorem FieldFunction.deed_eq (f : FieldFunction) (answer : Except Script.Value Script.Value) :
    Request.deed ⟨f.name, f.arguments, answer⟩ = f.deed := by
  cases f with
  | callEventById n =>
    simp only [name, arguments, Request.deed, deed]
    cases Instruction.idOfInt? n <;> rfl
  | _ => rfl

/-- How the field answers a request and what becomes of the state of the script. -/
inductive ScriptState.Serves (caller : ScriptCaller) (s : ScriptState) :
    Deed → Except Script.Value Script.Value → ScriptState → Prop
  | called {target : CallTarget} {child : Frame}
      (hchild : target.childFrame s.world.map caller.depth caller.limit = .ok (some child)) :
      Serves caller s (.call target) (.ok (.bool true)) { s with child := some child }
  | notCalled {target : CallTarget}
      (hchild : target.childFrame s.world.map caller.depth caller.limit = .ok none) :
      Serves caller s (.call target) (.ok (.bool false)) s
  | tooDeep {target : CallTarget} {fault : Fault}
      (hfault : target.childFrame s.world.map caller.depth caller.limit = .error fault) :
      Serves caller s (.call target) (.error (.text fault.message)) { s with tooDeep := some fault }
  | wrote (name switch : String) (value : Bool) (answer : Except Script.Value Script.Value) :
      Serves caller s (.write name switch value) answer
        { s with world := s.world.setSwitchOf name switch value }
  | logged (text : String) (answer : Except Script.Value Script.Value) :
      Serves caller s (.log text) answer
        { s with world := s.world.notify (.scriptLog caller.event text) }
  | queried (answer : Except Script.Value Script.Value) : Serves caller s .query answer s

section

variable {caller : ScriptCaller} {s s' : ScriptState}
  {answer : Except Script.Value Script.Value}

/-- A call is answered as its frame says. -/
theorem ScriptState.call_serves {target : CallTarget}
    (h : Yields (ScriptState.call caller target).run s answer s') :
    ScriptState.Serves caller s (.call target) answer s' := by
  simp only [ScriptState.call, yields_except_bind, yields_get, Except.ok.injEq, reduceCtorEq,
    false_and, exists_false, or_false] at h
  obtain ⟨_, _, ⟨rfl, rfl⟩, h⟩ := h
  split at h
  · rename_i child hchild
    simp only [yields_except_bind, yields_modify, yields_except_pure, reduceCtorEq, false_and,
      exists_false, or_false] at h
    obtain ⟨_, _, ⟨-, rfl⟩, rfl, rfl⟩ := h
    exact .called hchild
  · rename_i hchild
    obtain ⟨rfl, rfl⟩ := yields_except_pure.mp h
    exact .notCalled hchild
  · rename_i fault hfault
    simp only [yields_except_bind, yields_modify, yields_throw, reduceCtorEq, false_and,
      exists_false, or_false] at h
    obtain ⟨_, _, ⟨-, rfl⟩, rfl, rfl⟩ := h
    exact .tooDeep hfault

/-- Reading the world leaves the state of the script alone. -/
theorem ScriptState.ask_eq {f : World → Script.Value}
    (h : Yields (ScriptState.ask f).run s answer s') : s' = s := by
  simp only [ScriptState.ask, yields_except_bind, yields_get, yields_except_pure,
    Except.ok.injEq, reduceCtorEq, false_and, exists_false, or_false] at h
  obtain ⟨_, _, ⟨rfl, rfl⟩, -, rfl⟩ := h
  rfl

/-- Changing the world changes nothing else. -/
theorem ScriptState.tell_eq {f : World → World}
    (h : Yields (ScriptState.tell f).run s answer s') : s' = { s with world := f s.world } := by
  simp only [ScriptState.tell, yields_except_bind, yields_modify, yields_except_pure,
    reduceCtorEq, false_and, exists_false, or_false] at h
  obtain ⟨_, _, ⟨-, rfl⟩, -, rfl⟩ := h
  rfl

/-- The functions that the field lends to scripts answer every request as what it is. -/
theorem scriptLibrary_serves {name : String} {arguments : List Script.Value}
    {function : ExceptT Script.Value (StateM ScriptState) Script.Value}
    (hknown : scriptLibrary caller name arguments = some function)
    (h : Yields function.run s answer s') :
    ScriptState.Serves caller s (Request.deed ⟨name, arguments, answer⟩) answer s' := by
  unfold scriptLibrary at hknown
  split at hknown <;> cases hknown
  case h_1 => exact ScriptState.call_serves h
  case h_2 n =>
    cases hid : Instruction.idOfInt? n with
    | some id =>
      simp only [hid] at h
      simp only [Request.deed, hid]
      exact ScriptState.call_serves h
    | none =>
      simp only [hid] at h
      simp only [Request.deed, hid]
      obtain ⟨rfl, rfl⟩ := yields_except_pure.mp h
      exact .queried _
  case h_6 => exact ScriptState.tell_eq h ▸ .wrote ..
  case h_8 => exact ScriptState.tell_eq h ▸ .logged ..
  all_goals exact ScriptState.ask_eq h ▸ .queried _

end

end Overworld
