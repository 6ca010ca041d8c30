import Overworld.Interpreter.Frame

/-!
# Call targets

Calling another event by id or by name. A target that is missing or has nothing to
execute is no error, and nothing is called; calling deeper than the limit is one.
-/

namespace Overworld

/-- What a call names. -/
inductive CallTarget where
  | id (event : UInt32)
  | name (text : String)
  deriving DecidableEq, Inhabited

namespace CallTarget

/-- The wording of a target. -/
def text : CallTarget → String
  | id event => "id " ++ toString event
  | name text => "name '" ++ text ++ "'"

/-- The event that a target names. -/
def resolve? (map : FieldMap) : CallTarget → Option MapEvent
  | id event => map.events.get? event
  | name text => map.events.named? text

/-- Whether a call of the target runs anything. -/
def canCall (map : FieldMap) (target : CallTarget) : Bool :=
  (target.resolve? map).any MapEvent.isExecutable

/-- The frame that a call from some depth adds, if it runs anything. -/
def childFrame (map : FieldMap) (target : CallTarget) (callerDepth limit : UInt32) :
    Except Fault (Option Frame) :=
  match target.resolve? map with
  | none => .ok none
  | some e =>
    if !e.isExecutable then .ok none
    else if limit < callerDepth + 1 then .error (.callTooDeep (callerDepth + 1) limit)
    else .ok (Frame.ofEvent? (callerDepth + 1) map.id e)

end CallTarget

end Overworld
