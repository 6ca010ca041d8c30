import Overworld.Script.Reader

/-!
# The grammar of scripts

Scripts are read by recursive descent. A bound on the descent is computed from the
number of tokens, so that reading is total; every call uses up a token or is one of few
that lead to a call that does, and the bound is never reached.
-/

namespace Overworld.Script

open Reader

/-- Reads the parameters of a function behind the opening parenthesis. -/
def parameters (function : String) : Nat → List String → Reader (List String)
  | 0, names => return names.reverse
  | steps + 1, names => do
    let found ← next
    match found.token with
    | .mark ")" => return names.reverse
    | .name name =>
      if name ∈ names then refuse (.repeatedParameter name function) found.place
      let behind ← next
      match behind.token with
      | .mark ")" => return (name :: names).reverse
      | .mark "," => parameters function steps (name :: names)
      | _ =>
        refuseToken behind
          (.missing "," ("to separate the parameters of function '" ++ function ++ "'"))
    | _ =>
      refuseToken found
        (.missing ")" ("to close the parameters list of function '" ++ function ++ "'"))

/-- Refuses an assignment behind a condition. -/
def refuseAssignment : Reader Unit := do
  let found ← peek
  match found.token.assignment? with
  | some none => refuse .comparisonMeant found.place
  | some (some _) => refuse .assignmentFound found.place
  | none => return ()

/-- Whether a call of the function just named begins here. -/
def seesCall : Reader Bool := do
  return (← sees "(") || (← sees "()") || (← sees "!")

/-- What follows a statement: a semicolon, or the end of the statements, unless the statement ends
itself. The end is another one for blocks and for whole scripts. -/
def terminate (stmt : Stmt) (atEnd : Token) : Reader Unit := do
  let behind ← peek
  if behind.token = .mark ";" then
    let _ ← next
  else if behind.token ≠ atEnd && !stmt.endsItself then
    refuseToken behind (.missing ";" "to terminate this statement")

/-- The literals of the labels of a case; `ranged` says whether a case with a range stands before
it. Ranges that hold nothing are left out. -/
def labelValues (ranged : Bool) : List Expr → Reader (List Literal)
  | [] => return []
  | label :: rest => do
    match label.label? with
    | none => refuse (.expressionExpected "a literal") label.start
    | some (.int n) =>
      if ranged then refuse .integerBehindRange label.start
      return .int n :: (← labelValues ranged rest)
    | some value =>
      if value.isEmptyRange then labelValues ranged rest
      else return value :: (← labelValues (ranged || value.isRange) rest)

/-- Reads what follows a case: a comma, or the closing brace, unless the case ends itself. -/
def caseEnd (endsItself : Bool) : Reader Unit := do
  if ← takes "," then return ()
  let behind ← peek
  match behind.token with
  | .mark "\x7d" => return ()
  | .finish => refuse (.missing ")" "to end this switch block") behind.place
  | .fault fault => refuse (.lexical fault) behind.place
  | _ =>
    if !endsItself then
      refuse (.missing "," "to separate the items in this switch block") behind.place

mutual

/-- Reads an expression. -/
def expression (around : Surroundings) : Nat → Reader Expr
  | 0 => refuse .tooComplex around.place
  | depth + 1 => do
    let around := { ← deeper around with place := (← peek).place }
    let first ← operand around depth
    let inner ← deeper around
    operators { inner with place := first.place } 0 depth first

/-- Reads the operators behind an expression that bind more strongly than `bound`. -/
def operators (around : Surroundings) (bound : Nat) : Nat → Expr → Reader Expr
  | 0, left => return left
  | depth + 1, left => do
    let found ← peek
    match found.token with
    | .reserved word =>
      if isWord word then return left else refuse (.unknownOperator word) found.place
    | .mark symbol =>
      let own := found.token.strength
      if own ≤ bound || (around.inLabel && symbol = "|") then return left
      let _ ← next
      let right ← if own = Token.strength (.mark "..") && (← peek).token.endsRange then
          pure (.literal (.int greatestInt) (← peek).place)
        else operand around depth
      let ahead ← peek
      if let .reserved word := ahead.token then
        if !isWord word then refuse (.unknownOperator word) ahead.place
      let strength := ahead.token.strength
      let right ← if own < strength || (own = strength && Token.bindsRight own) then do
          let inner ← deeper around
          operators { inner with place := right.place }
            (if Token.bindsRight own then own - 1 else own) depth right
        else pure right
      let inner ← deeper around
      operators { inner with place := found.place } bound depth
        (← Expr.joined symbol left right found.place)
    | _ => return left

/-- Reads a value with the signs in front of it. -/
def operand (around : Surroundings) : Nat → Reader Expr
  | 0 => refuse .tooComplex around.place
  | depth + 1 => do
    let found ← peek
    let around := { around with place := found.place }
    let signed (op : UnaryOp) : Reader Expr := do
      let _ ← next
      return Expr.signed op (← operand (← deeper around) depth) found.place
    match found.token with
    | .mark "-" => signed .negate
    | .mark "+" => signed .plus
    | .mark "!" => signed .not
    | _ => primary around depth

/-- Reads a value. -/
def primary (around : Surroundings) : Nat → Reader Expr
  | 0 => refuse .tooComplex around.place
  | depth + 1 => do
    let found ← peek
    let literal (value : Literal) : Reader Expr := do
      let _ ← next
      return .literal value found.place
    match found.token with
    | .int n => literal (.int n)
    | .float bits => literal (.float bits)
    | .char c => literal (.char c)
    | .text s => literal (.text s)
    | .mark "true" => literal (.bool true)
    | .mark "false" => literal (.bool false)
    | .mark "()" => literal .unit
    | .name name =>
      let _ ← next
      if ← seesCall then call name around depth else return .lookup name found.place
    | .reserved word =>
      let _ ← next
      if word ∈ callableWords && (← seesCall) then call word around depth
      else if word = "this" && !around.inFunction then refuse .targetOutsideFunction found.place
      else if word = "this" then return .lookup word found.place
      else refuse (if isWord word then .reservedWord word else .reservedSymbol word) found.place
    | .mark "(" =>
      let _ ← next
      let inner ← expression (← deeper around) depth
      expect ")" "for a matching ( in this expression"
      return inner
    | .mark "\x7b" => return .block (← block (← deeper around) depth)
    | .mark "if" => return .block (← conditional (← deeper around) depth).toBlock
    | .mark "switch" => return .block (← choice (← deeper around) depth).toBlock
    | .mark "while" | .mark "loop" => return .block (← conditionLoop (← deeper around) depth).toBlock
    | .mark "for" => return .block (← forLoop (← deeper around) depth).toBlock
    | .finish => refuse .incomplete found.place
    | token => refuseToken found (.unexpected token.show)

/-- Reads a call behind the name of the function. -/
def call (function : String) (around : Surroundings) : Nat → Reader Expr
  | 0 => refuse .tooComplex around.place
  | depth + 1 => do
    if ← takes "!" then
      let found ← peek
      if found.token ≠ .mark "(" && found.token ≠ .mark "()" then
        refuse (.missing "(" "to start arguments list of function call") found.place
    let finished (arguments : List Expr) : Reader Expr :=
      return .call (.function function) arguments around.place
    if (← next).token = .mark "()" then finished []
    else
      let found ← peek
      match found.token with
      | .mark ")" =>
        let _ ← next
        finished []
      | .finish =>
        refuse (.missing ")"
          ("to close the arguments list of this function call '" ++ function ++ "'")) found.place
      | .fault fault => refuse (.lexical fault) found.place
      | _ => finished (← arguments function (← deeper around) depth [])

/-- Reads the arguments of a call behind the opening parenthesis. -/
def arguments (function : String) (around : Surroundings) : Nat → List Expr → Reader (List Expr)
  | 0, done => return done.reverse
  | depth + 1, done => do
    if ← takes ")" then return done.reverse
    let argument ← expression around depth
    let behind ← peek
    match behind.token with
    | .mark ")" =>
      let _ ← next
      return (argument :: done).reverse
    | .mark "," =>
      let _ ← next
      arguments function around depth (argument :: done)
    | .finish =>
      refuse (.missing ")"
        ("to close the arguments list of this function call '" ++ function ++ "'")) behind.place
    | _ =>
      refuseToken behind
        (.missing "," ("to separate the arguments to function call '" ++ function ++ "'"))

/-- Reads a condition. -/
def condition (around : Surroundings) : Nat → Reader Expr
  | 0 => refuse .tooComplex around.place
  | depth + 1 => do
    refuseBlock
    let expr ← (← expression around depth).asCondition
    refuseAssignment
    return expr

/-- Reads a block. -/
def block (around : Surroundings) : Nat → Reader Block
  | 0 => refuse .tooComplex around.place
  | depth + 1 => do
    let place := (← peek).place
    expect "\x7b" "to start a statement block"
    let inner ← deeper around
    return .of (← statements { inner with topLevel := false, place } depth []) place

/-- Reads statements up to a closing brace. -/
def statements (around : Surroundings) : Nat → List Stmt → Reader (List Stmt)
  | 0, done => return done.reverse
  | depth + 1, done => do
    if ← takes "\x7d" then return done.reverse
    let found ← peek
    if found.token = .finish then refuse (.missing "\x7d" "to terminate this block") found.place
    let stmt ← statement around depth
    if stmt.isSkip then statements around depth done
    else
      terminate stmt (.mark "\x7d")
      statements around depth (stmt :: done)

/-- Reads a statement; a lone semicolon and the definition of a function do nothing. -/
def statement (around : Surroundings) : Nat → Reader Stmt
  | 0 => refuse .tooComplex around.place
  | depth + 1 => do
    let found ← peek
    let around := { around with place := found.place }
    let result (starts : Token → Bool) : Reader (Option Expr) := do
      if starts (← peek).token then return some (← expression (← deeper around) depth)
      else return none
    let hasResult (token : Token) : Bool :=
      !token.endsStatement || (around.topLevel && token = .mark "\x7d")
    match found.token with
    | .finish => return .skip found.place
    | .mark ";" =>
      let _ ← next
      return .skip found.place
    | .mark "\x7b" => return .block (← block around depth)
    | .mark "fn" =>
      if around.topLevel then
        definition depth
        return .skip found.place
      else refuse .innerFunction found.place
    | .mark "if" => conditional (← deeper around) depth
    | .mark "switch" => choice (← deeper around) depth
    | .mark "while" | .mark "loop" => conditionLoop (← deeper around) depth
    | .mark "for" => forLoop (← deeper around) depth
    | .mark "continue" =>
      if !around.inLoop then refuse .outsideLoop found.place
      let _ ← next
      return .nextRound found.place
    | .mark "break" =>
      if !around.inLoop then refuse .outsideLoop found.place
      let _ ← next
      return .leave (← result Token.startsExpression) found.place
    | .mark "return" =>
      let _ ← next
      return .finish (← result hasResult) found.place
    | .mark "throw" =>
      let _ ← next
      return .raise (← result hasResult) found.place
    | .mark "try" => attempt (← deeper around) depth
    | .mark "let" =>
      let _ ← next
      let inner ← deeper (← deeper around)
      let name ← variableName
      if ← takes "=" then return .bind name (← expression inner depth) found.place
      else return .bind name (.literal .unit found.place) found.place
    | _ =>
      let around ← deeper around
      let expr ← expression around depth
      let behind ← peek
      match behind.token.assignment? with
      | some op =>
        let _ ← next
        let value ← expression { around with place := behind.place } depth
        expr.assigned op value behind.place
      | none => return .evaluate expr

/-- Reads a conditional. -/
def conditional (around : Surroundings) : Nat → Reader Stmt
  | 0 => refuse .tooComplex around.place
  | depth + 1 => do
    let place := (← next).place
    let around := { ← deeper around with place }
    let test ← condition around depth
    let yes ← block around depth
    if ← takes "else" then
      let no ← if ← sees "if" then Stmt.toBlock <$> conditional around depth
        else block around depth
      return .branch test yes no place
    else return .branch test yes (.of [] place) place

/-- Reads a loop that a condition or a statement inside ends. -/
def conditionLoop (around : Surroundings) : Nat → Reader Stmt
  | 0 => refuse .tooComplex around.place
  | depth + 1 => do
    let opening ← next
    let around ← deeper around
    let test ← if opening.token = .mark "while" then some <$> condition around depth
      else pure none
    let body ← block { around with inLoop := true, place := opening.place } depth
    return .repeatWhile test body opening.place

/-- Reads a loop through the elements of a value. -/
def forLoop (around : Surroundings) : Nat → Reader Stmt
  | 0 => refuse .tooComplex around.place
  | depth + 1 => do
    let place := (← next).place
    let around := { ← deeper around with place }
    let name ← variableName
    expect "in" "after the iteration variable"
    refuseBlock
    let sequence ← (← expression around depth).asIterable
    return .forEach name sequence (← block { around with inLoop := true } depth) place

/-- Reads a choice between cases. -/
def choice (around : Surroundings) : Nat → Reader Stmt
  | 0 => refuse .tooComplex around.place
  | depth + 1 => do
    let place := (← next).place
    let around := { ← deeper around with place }
    let subject ← expression around depth
    expect "\x7b" "to start a switch block"
    let (cases, otherwise) ← choiceCases around depth [] none
    return .choose subject cases (otherwise.map Prod.fst) place

/-- Reads the cases of a choice up to the closing brace. The default, once read, is the last. -/
def choiceCases (around : Surroundings) :
    Nat → List (List Literal × Expr) → Option (Expr × Place) →
      Reader (List (List Literal × Expr) × Option (Expr × Place))
  | 0, done, otherwise => return (done.reverse, otherwise)
  | depth + 1, done, otherwise => do
    let found ← peek
    match found.token, otherwise with
    | .mark "\x7d", _ =>
      let _ ← next
      return (done.reverse, otherwise)
    | .finish, _ => refuse (.missing "\x7d" "to end this switch block") found.place
    | .mark "_", none =>
      let _ ← next
      let (action, endsItself) ← caseAction around depth
      caseEnd endsItself
      choiceCases around depth done (some (action, found.place))
    | _, some (_, defaultPlace) => refuse .defaultNotLast defaultPlace
    | _, none =>
      let labels ← caseLabels around depth []
      let (action, endsItself) ← caseAction around depth
      let values ← labelValues (done.any fun case => case.1.any Literal.isRange) labels
      caseEnd endsItself
      choiceCases around depth ((values, action) :: done) none

/-- Reads the labels of a case. -/
def caseLabels (around : Surroundings) : Nat → List Expr → Reader (List Expr)
  | 0, done => return done.reverse
  | depth + 1, done => do
    let label ← tryCatch (expression { around with inLabel := true } depth) fun refusal =>
      refuse (.expressionExpected "literal") refusal.place
    if ← takes "|" then caseLabels around depth (label :: done)
    else return (label :: done).reverse

/-- Reads what a case evaluates to, and whether it ends itself. -/
def caseAction (around : Surroundings) : Nat → Reader (Expr × Bool)
  | 0 => refuse .tooComplex around.place
  | depth + 1 => do
    expect "=>" "in this switch case"
    let stmt ← statement around depth
    return (.block stmt.toBlock, stmt.endsItself)

/-- Reads a statement that may fail and what runs when it does. -/
def attempt (around : Surroundings) : Nat → Reader Stmt
  | 0 => refuse .tooComplex around.place
  | depth + 1 => do
    let place := (← next).place
    let around := { ← deeper around with place }
    let body ← block around depth
    require "catch" "for the 'try' statement"
    let name ← if ← takes "(" then do
        let name ← variableName
        require ")" "to enclose the catch variable"
        pure (some name)
      else pure none
    return .attempt body name (← block around depth) place

/-- Reads the definition of a function. -/
def definition : Nat → Reader Unit
  | 0 => refuse .tooComplex {}
  | depth + 1 => do
    let place := (← next).place
    let around ← deeper (Surroundings.function place)
    let name ← functionName
    let opening ← peek
    let names ← if ← takes "()" then pure []
      else if ← takes "(" then parameters name depth []
      else refuse (.parametersExpected name) opening.place
    let brace ← peek
    if brace.token ≠ .mark "\x7b" then refuse (.bodyExpected name) brace.place
    let body ← block around depth
    define { name, parameters := names, body } place

end

/-- Reads the statements of a whole script. -/
def script : Nat → List Stmt → Reader (List Stmt)
  | 0, done => return done.reverse
  | depth + 1, done => do
    let found ← peek
    if found.token = .finish then return done.reverse
    let stmt ← statement { topLevel := true, place := found.place } depth
    if stmt.isSkip then script depth done
    else
      terminate stmt .finish
      script depth (stmt :: done)

/-- The program of a text, or why it is refused. The texts that keep to the part of the language
that is read here are covered (`isCovered`). Others may be refused though they are good scripts. -/
def Program.read (source : String) : Except Refusal Program := do
  let located := tokens source
  let (body, cursor) ← (script (16 * located.length + 16) []).run { tokens := located }
  return { functions := cursor.functions.reverse, body }

end Overworld.Script
