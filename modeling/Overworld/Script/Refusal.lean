import Overworld.Script.Token

/-!
# Refusals

A script that cannot be read is refused for one cause at one place: the first one in
reading order. The wording of every cause stands here.
-/

namespace Overworld.Script

/-- Why a script cannot be read. -/
inductive Complaint where
  | lexical (fault : TokenFault)
  | unexpected (text : String)
  /-- The script ends where a value has to stand. -/
  | incomplete
  | missing (mark purpose : String)
  | expressionExpected (kind : String)
  | kindMismatch (wanted found : String)
  | nameExpected
  | reservedWord (word : String)
  | reservedSymbol (symbol : String)
  | unknownOperator (symbol : String)
  | constantAssigned
  | expressionAssigned
  /-- An assignment where a comparison was meant. -/
  | comparisonMeant
  /-- An assignment with an operator where a condition has to stand. -/
  | assignmentFound
  | outsideLoop
  | innerFunction
  | functionNameExpected
  | parametersExpected (function : String)
  | bodyExpected (function : String)
  | repeatedParameter (name function : String)
  | repeatedFunction (name : String) (parameters : Nat)
  | defaultNotLast
  /-- A case with an integer behind a case with a range. -/
  | integerBehindRange
  /-- The word for the target of a method, outside functions. -/
  | targetOutsideFunction
  | tooComplex
  deriving DecidableEq, Inhabited, Repr

/-- The wording of a number of parameters. -/
def parameterCount : Nat → String
  | 0 => "no parameters"
  | 1 => "1 parameter"
  | n => toString n ++ " parameters"

/-- The wording of a complaint. -/
def Complaint.message : Complaint → String
  | .lexical fault => fault.message
  | .unexpected text => "Unexpected '" ++ text ++ "'"
  | .incomplete => "Script is incomplete"
  | .missing mark purpose => "Expecting '" ++ mark ++ "' " ++ purpose
  | .expressionExpected kind => "Expecting " ++ kind ++ " expression"
  | .kindMismatch wanted found => "Expecting " ++ wanted ++ ", not " ++ found
  | .nameExpected => "Expecting name of a variable"
  | .reservedWord word => "'" ++ word ++ "' is a reserved keyword"
  | .reservedSymbol symbol => "'" ++ symbol ++ "' is a reserved symbol"
  | .unknownOperator symbol => "Unknown operator: '" ++ symbol ++ "'"
  | .constantAssigned => "Cannot assign to a constant value"
  | .expressionAssigned => "Expression cannot be assigned to"
  | .comparisonMeant => "Possibly a typo of '=='?"
  | .assignmentFound => "Expecting a boolean expression, not an assignment"
  | .outsideLoop => "Break statement should only be used inside a loop"
  | .innerFunction =>
    "Function definitions must be at global level and cannot be inside a block or another function"
  | .functionNameExpected => "Expecting function name in function declaration"
  | .parametersExpected function => "Expecting parameters for function " ++ function
  | .bodyExpected function => "Expecting body statement block for function " ++ function
  | .repeatedParameter name function =>
    "Duplicated parameter " ++ name ++ " for function " ++ function
  | .repeatedFunction name parameters =>
    "Function " ++ name ++ " with " ++ parameterCount parameters ++ " already exists"
  | .defaultNotLast => "Default switch case must be the last"
  | .integerBehindRange => "Numeric switch case cannot follow a range case"
  | .targetOutsideFunction => "'this' can only be used in functions"
  | .tooComplex => "Expression exceeds maximum complexity"

/-- A complaint and the place it is about. -/
structure Refusal where
  complaint : Complaint
  place : Place
  deriving DecidableEq, Inhabited, Repr

/-- The wording of a refusal. -/
def Refusal.message (r : Refusal) : String :=
  r.complaint.message ++ " (" ++ r.place.text ++ ")"

end Overworld.Script
