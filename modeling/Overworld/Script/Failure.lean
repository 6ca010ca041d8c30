import Overworld.Script.Value

/-!
# Failures of running scripts

A failure is a cause and the place where it arose. A failure inside a function of the
script is reported with the call around it. A script can catch every cause but two,
those that bound how long and how deep it may run.
-/

namespace Overworld.Script

/-- Why a script stops. -/
inductive Cause where
  | raised (value : Value)
  | unknownVariable (name : String)
  | unknownFunction (signature : String)
  | kindMismatch (wanted found : String)
  | notIterable
  | arithmetic (text : String)
  | tooManyOperations
  | callsTooDeep
  | inFunction (name : String) (inner : Cause) (innerPlace : Place)
  deriving Inhabited

namespace Cause

/-- The wording of a cause, without the place where it arose. -/
def message : Cause → String
  | raised .unit => "Runtime error"
  | raised value => if value.toText = "" then "Runtime error" else "Runtime error: " ++ value.toText
  | unknownVariable name => "Variable not found: " ++ name
  | unknownFunction signature => "Function not found: " ++ signature
  | kindMismatch wanted found => "Data type incorrect: " ++ found ++ " (expecting " ++ wanted ++ ")"
  | notIterable => "For loop expects iterable type"
  | arithmetic text => text
  | tooManyOperations => "Too many operations"
  | callsTooDeep => "Stack overflow"
  | inFunction name inner place =>
    inner.message ++ " (" ++ place.text ++ ")\nin call to function '" ++ name ++ "'"

/-- Whether a cause bounds how long or how deep a script runs. -/
def isLimit : Cause → Bool
  | tooManyOperations | callsTooDeep => true
  | _ => false

/-- The name of a cause in a report. -/
def label : Cause → String
  | raised _ => "ErrorRuntime"
  | unknownVariable _ => "ErrorVariableNotFound"
  | unknownFunction _ => "ErrorFunctionNotFound"
  | kindMismatch _ _ => "ErrorMismatchDataType"
  | notIterable => "ErrorFor"
  | arithmetic _ => "ErrorArithmetic"
  | tooManyOperations => "ErrorTooManyOperations"
  | callsTooDeep => "ErrorStackOverflow"
  | inFunction _ _ _ => "ErrorInFunctionCall"

/-- The cause inside all calls of functions. -/
def innermost : Cause → Cause
  | inFunction _ inner _ => inner.innermost
  | other => other

end Cause

/-- A cause and the place where it arose. -/
structure Failure where
  cause : Cause
  place : Place
  deriving Inhabited

namespace Failure

/-- The wording of a failure. -/
def message (f : Failure) : String := f.cause.message ++ " (" ++ f.place.text ++ ")"

/-- The failure of a call whose function failed. Limits are reported at the call itself. -/
def around (name : String) (place : Place) (f : Failure) : Failure :=
  if f.cause.isLimit then { f with place } else { cause := .inFunction name f.cause f.place, place }

/-- The parts of a failure that its report has besides its message and place. -/
def details : Cause → List (String × Value)
  | .unknownVariable name => [("variable", .text name)]
  | .unknownFunction signature => [("function", .text signature)]
  | .kindMismatch wanted found => [("actual", .text found), ("requested", .text wanted)]
  | .inFunction name _ _ => [("function", .text name), ("source", .text "")]
  | _ => []

/-- Places a field among fields sorted by name. -/
def sortedInsert (field : String × Value) : List (String × Value) → List (String × Value)
  | [] => [field]
  | head :: rest =>
    if field.1 < head.1 then field :: head :: rest else head :: sortedInsert field rest

/-- The value that a script catches: what was raised, or a report on the failure. -/
def caught (f : Failure) : Value :=
  match f.cause.innermost with
  | .raised value => value
  | _ =>
    let fields := [("error", Value.text f.cause.label), ("line", .int f.place.line),
      ("message", .text f.cause.message), ("position", .int f.place.column)] ++ details f.cause
    .report (fields.foldr sortedInsert [])

end Failure

end Overworld.Script
