import Overworld.Script.Program
import Overworld.Script.Refusal
import Overworld.Script.Scan

/-!
# Reading steps

A script is read token by token. A step takes tokens, may note the definition of a
function, and either has a result or refuses the script. How deep terms nest is
limited; each term knows its level, and the level inside is one more.
-/

namespace Overworld.Script

/-- What is left to read, and the functions read so far. -/
structure Cursor where
  tokens : List Located
  functions : List Function := []
  deriving Inhabited

/-- Reading steps. -/
abbrev Reader := StateT Cursor (Except Refusal)

/-- Where a term stands. -/
structure Surroundings where
  topLevel : Bool := false
  inLoop : Bool := false
  inFunction : Bool := false
  /-- In the label of a case, where a bar separates literals. -/
  inLabel : Bool := false
  level : Nat := 0
  limit : Nat := 64
  /-- The place that is named when the terms nest too deep. -/
  place : Place := {}
  deriving DecidableEq, Inhabited, Repr

/-- The surroundings of the body of a function. -/
def Surroundings.function (place : Place) : Surroundings :=
  { inFunction := true, limit := 32, place }

namespace Reader

/-- Refuses the script. -/
def refuse {α : Type} (complaint : Complaint) (place : Place) : Reader α :=
  throw { complaint, place }

/-- The next token, left where it is. -/
def peek : Reader Located := do
  return (← get).tokens.headD { token := .finish, place := {} }

/-- Takes the next token. The last token stays. -/
def next : Reader Located := do
  let token ← peek
  modify fun c => match c.tokens with
    | _ :: second :: rest => { c with tokens := second :: rest }
    | _ => c
  return token

/-- Whether the next token is this mark. -/
def sees (mark : String) : Reader Bool := do
  return (← peek).token = .mark mark

/-- Takes the next token if it is this mark. -/
def takes (mark : String) : Reader Bool := do
  if ← sees mark then
    let _ ← next
    return true
  else return false

/-- Refuses a token that stands where another thing has to stand. A fault in the token itself
comes first. -/
def refuseToken {α : Type} (found : Located) (complaint : Complaint) : Reader α :=
  match found.token with
  | .fault fault => refuse (.lexical fault) found.place
  | _ => refuse complaint found.place

/-- Takes a mark that has to stand here. -/
def expect (mark purpose : String) : Reader Unit := do
  let found ← next
  if found.token = .mark mark then return ()
  else refuseToken found (.missing mark purpose)

/-- Takes a mark that has to stand here, and does not look into a token that is another. -/
def require (mark purpose : String) : Reader Unit := do
  let found ← peek
  if !(← takes mark) then refuse (.missing mark purpose) found.place

/-- Whether a kept word is meant, not a kept symbol. -/
def isWord (reserved : String) : Bool := reserved.toList.all insideName

/-- Takes the name of a variable. -/
def variableName : Reader String := do
  let found ← next
  match found.token with
  | .name name => return name
  | .reserved word =>
    if isWord word then refuse (.reservedWord word) found.place
    else refuse .nameExpected found.place
  | _ => refuseToken found .nameExpected

/-- Takes the name of a function that is defined. -/
def functionName : Reader String := do
  let found ← next
  match found.token with
  | .name name => return name
  | .reserved word =>
    refuse (if isWord word then .reservedWord word else .reservedSymbol word) found.place
  | _ => refuseToken found .functionNameExpected

/-- One level deeper. -/
def deeper (around : Surroundings) : Reader Surroundings :=
  if around.limit ≤ around.level then refuse .tooComplex around.place
  else return { around with level := around.level + 1 }

/-- Refuses a block, or the end of the script, where a condition has to stand. -/
def refuseBlock : Reader Unit := do
  let found ← peek
  if found.token = .mark "\x7b" || found.token = .finish then
    refuse (.expressionExpected "a boolean") found.place

/-- Notes a function; no two have one name and equally many parameters. -/
def define (function : Function) (place : Place) : Reader Unit := do
  let count := function.parameters.length
  if (← get).functions.any fun f => f.name = function.name && f.parameters.length = count then
    refuse (.repeatedFunction function.name count) place
  modify fun c => { c with functions := function :: c.functions }

end Reader

/-- What kind of value a literal is that cannot be a condition. -/
def Literal.notBoolean? : Literal → Option String
  | .unit => some "()"
  | .int _ => some "a number"
  | .float _ => some "a floating-point number"
  | .char _ => some "a character"
  | .text _ => some "a string"
  | _ => none

/-- What kind of value a literal is that a loop cannot walk through. -/
def Literal.notIterable? : Literal → Option String
  | .unit => some "()"
  | .bool _ => some "a boolean"
  | .int _ => some "a number"
  | .float _ => some "a floating-point number"
  | .char _ => some "a character"
  | _ => none

/-- Whether a literal is a range. -/
def Literal.isRange : Literal → Bool
  | .range _ _ _ => true
  | _ => false

/-- Whether a literal is a range that holds nothing. -/
def Literal.isEmptyRange : Literal → Bool
  | .range first last closed => if closed then last < first else last ≤ first
  | _ => false

namespace Expr

/-- An expression that may be a condition. -/
def asCondition (expr : Expr) : Reader Expr :=
  match expr.literal?.bind Literal.notBoolean? with
  | some kind => Reader.refuse (.kindMismatch "a boolean expression" kind) expr.start
  | none => return expr

/-- An expression that a loop may walk through. -/
def asIterable (expr : Expr) : Reader Expr :=
  match expr.literal?.bind Literal.notIterable? with
  | some kind => Reader.refuse (.kindMismatch "an iterable value" kind) expr.start
  | none => return expr

/-- The expression of two operands and the symbol between them. -/
def joined (symbol : String) (left right : Expr) (place : Place) : Reader Expr := do
  if symbol = "&&" then
    let right ← right.asCondition
    return both (← left.asCondition) right place
  else if symbol = "||" then
    let right ← right.asCondition
    return either (← left.asCondition) right place
  else match BinaryOp.ofSymbol? symbol with
    | some op => return call (.binary op) [left, right] place
    | none => Reader.refuse (.unknownOperator symbol) place

/-- The expression of a sign and its operand. The sign of a number belongs to the number. -/
def signed (op : UnaryOp) (operand : Expr) (place : Place) : Expr :=
  match op, operand with
  | .negate, literal (.int n) _ =>
    if fitsInt (-n) then literal (.int (-n)) place
    else literal (.float (-(Float.ofInt n)).toBits) place
  | .negate, literal (.float bits) _ => literal (.float (-(Float.ofBits bits)).toBits) place
  | .plus, literal (.int n) p => literal (.int n) p
  | .plus, literal (.float bits) p => literal (.float bits) p
  | _, _ => call (.unary op) [operand] place

/-- The literal that an expression is as the label of a case. -/
def label? : Expr → Option Literal
  | literal value _ => some value
  | call (.binary .range) [literal (.int first) _, literal (.int last) _] _ =>
    some (.range first last false)
  | call (.binary .closedRange) [literal (.int first) _, literal (.int last) _] _ =>
    some (.range first last true)
  | _ => none

/-- The statement that assigns to an expression, which has to name a variable. -/
def assigned (target : Expr) (op : Option BinaryOp) (value : Expr) (place : Place) :
    Reader Stmt :=
  match target with
  | lookup name namePlace => return .assign op name namePlace value place
  | literal _ _ => Reader.refuse .constantAssigned target.start
  | both _ _ _ | either _ _ _ =>
    if op.isNone then Reader.refuse .comparisonMeant place
    else Reader.refuse .expressionAssigned target.place
  | _ => Reader.refuse .expressionAssigned target.place

end Expr

namespace Token

/-- How strongly an operator binds; what is no operator does not bind. -/
def strength : Token → Nat
  | mark "||" | mark "|" | mark "^" => 30
  | mark "&&" | mark "&" => 60
  | mark "==" | mark "!=" => 90
  | mark "<" | mark "<=" | mark ">" | mark ">=" => 130
  | mark ".." | mark "..=" => 140
  | mark "+" | mark "-" => 150
  | mark "*" | mark "/" | mark "%" => 180
  | mark "**" => 190
  | mark "<<" | mark ">>" => 210
  | _ => 0

/-- Whether an operator with this strength takes what is to its right first among its likes. -/
def bindsRight (strength : Nat) : Bool := strength = 190

/-- The operator in front of an equality sign, for the symbols that assign. -/
def assignment? : Token → Option (Option BinaryOp)
  | mark "=" => some none
  | mark symbol =>
    (BinaryOp.all.find? fun op => op.assigns && op.symbol ++ "=" = symbol).map some
  | _ => none

/-- Whether a token ends a statement that may have a value but has none. -/
def endsStatement : Token → Bool
  | finish | mark ";" | mark "\x7d" => true
  | _ => false

/-- Whether a token ends a range that has no last integer. -/
def endsRange : Token → Bool
  | mark symbol => symbol ∈ [")", "]", "\x7d", ",", ";", "=>"]
  | _ => false

/-- Whether an expression may start with a token. -/
def startsExpression : Token → Bool
  | mark symbol =>
    symbol ∈ ["(", "()", "\x7b", "[", "#\x7b", "-", "+", "!", "|", "||", "true", "false", "if",
      "switch", "while", "until", "loop", "do", "for"]
  | finish => false
  | _ => true

end Token

end Overworld.Script
