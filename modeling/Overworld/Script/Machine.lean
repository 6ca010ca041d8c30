import Overworld.Script.Operation

/-!
# The script machine

A script runs on a machine with an explicit stack of frames, one small step at a time.
The steps know nothing of the host: a step either leads to another state, or asks for
a function that the script does not define, or ends the script. What the host does can
therefore depend on a script only through the requests it makes, in their order.

Operations are counted, and a script that takes more of them than allowed fails at the
place of the first one too many.
-/

namespace Overworld.Script

/-- How many operations a script may take. -/
def operationLimit : Nat := 1000000

/-- How deep calls of the functions of a script may nest. -/
def levelLimit : Nat := 64

/-- What ends the evaluation of a term instead of a value. -/
inductive Signal where
  | leave (value : Value)
  | nextRound
  | finish (value : Value)
  | failed (failure : Failure)
  deriving Inhabited

/-- The result of a signal that no frame takes. -/
def Signal.result : Signal → Except Failure Value
  | .leave v | .finish v => .ok v
  | .nextRound => .ok .unit
  | .failed f => .error f

/-- What the machine does next: run a statement, evaluate an expression, or hand a value or a
signal to the topmost frame. -/
inductive Focus where
  | statement (stmt : Stmt)
  | expression (expr : Expr)
  | value (value : Value)
  | signal (signal : Signal)
  deriving Inhabited

/-- What waits for the value of a term. -/
inductive Frame where
  | sequence (rest : List Stmt)
  /-- A block: behind it only the oldest `size` variables are left. -/
  | scope (size : Nat)
  /-- A call whose arguments are evaluated in order; `done` are those so far, last first. -/
  | arguments (callee : Callee) (place : Place) (done : List Value) (rest : List Expr)
  /-- A call whose first argument is the name of a variable, which is read last. -/
  | otherArguments (first : Expr) (callee : Callee) (place : Place) (done : List Value)
      (rest : List Expr)
  | firstArgument (callee : Callee) (place : Place) (others : List Value)
  | both (leftPlace : Place) (right : Expr)
  | either (leftPlace : Place) (right : Expr)
  | truth (place : Place)
  | bind (name : String)
  | assign (op : Option BinaryOp) (name : String) (namePlace place : Place)
  | branch (conditionPlace : Place) (yes no : Block)
  | choose (cases : List (List Literal × Expr)) (otherwise : Option Expr)
  /-- The condition of a loop. -/
  | test (condition : Expr) (body : Block)
  /-- A round of a loop that a statement inside ends, or its condition. -/
  | round (condition : Option Expr) (body : Block)
  /-- The value that a loop walks through. -/
  | elements (start : Place) (name : String) (body : Block)
  /-- A round of a loop through elements. -/
  | each (name : String) (supply : Supply) (body : Block) (size : Nat)
  | leave
  | finish
  | raise (place : Place)
  /-- The body of an attempt. -/
  | guarded (name : Option String) (handler : Block) (size : Nat)
  /-- The handler of an attempt. -/
  | handling (caught : Failure)
  /-- A call of a function of the script. -/
  | callee (name : String) (place : Place) (locals : List (String × Value))
  deriving Inhabited

/-- The state of a running script. Variables are listed latest first. -/
structure Machine where
  focus : Focus
  frames : List Frame := []
  locals : List (String × Value) := []
  operations : Nat := 0
  level : Nat := 0
  deriving Inhabited

/-- What a step of the machine leads to. -/
inductive Step where
  | next (machine : Machine)
  /-- Asks the host for a function; the answer goes to the machine. -/
  | ask (name : String) (arguments : List Value) (place : Place) (machine : Machine)
  | ended (result : Except Failure Value)
  deriving Inhabited

namespace Machine

/-- Goes on with a value. -/
def give (m : Machine) (v : Value) : Machine := { m with focus := .value v }

/-- Goes on with a signal. -/
def raise (m : Machine) (s : Signal) : Machine := { m with focus := .signal s }

/-- Goes on with a failure. -/
def fail (m : Machine) (cause : Cause) (place : Place) : Machine :=
  m.raise (.failed { cause, place })

/-- Goes on with a result. -/
def conclude (m : Machine) (result : Except Cause Value) (place : Place) : Machine :=
  match result with
  | .ok v => m.give v
  | .error cause => m.fail cause place

/-- Evaluates an expression and hands its value to a frame. -/
def push (m : Machine) (expr : Expr) (frame : Frame) : Machine :=
  { m with focus := .expression expr, frames := frame :: m.frames }

/-- Counts an operation. -/
def count (m : Machine) (place : Place) (go : Machine → Step) : Step :=
  if m.operations < operationLimit then go { m with operations := m.operations + 1 }
  else .next (m.fail .tooManyOperations place)

/-- Runs statements one after the other; the value of the last one is their value. -/
def runAll (m : Machine) : List Stmt → Machine
  | [] => m.give .unit
  | [last] => { m with focus := .statement last }
  | stmt :: rest => { m with focus := .statement stmt, frames := .sequence rest :: m.frames }

/-- Drops all variables but the oldest ones. -/
def shrink (m : Machine) (size : Nat) : Machine :=
  { m with locals := m.locals.drop (m.locals.length - size) }

/-- Runs a block in a scope of its own. -/
def runScoped (m : Machine) (body : Block) : Machine :=
  match body.statements with
  | [] => m.give .unit
  | stmts => { m with frames := .scope m.locals.length :: m.frames }.runAll stmts

/-- Gives the latest variable of a name a value. -/
def setVariable (name : String) (value : Value) :
    List (String × Value) → List (String × Value)
  | [] => []
  | (other, old) :: rest =>
    if other = name then (name, value) :: rest else (other, old) :: setVariable name value rest

/-- Calls a function of the script, or else asks the host. A function with an empty body is not
called at all. -/
def invokeNamed (p : Program) (m : Machine) (name : String) (arguments : List Value)
    (place : Place) : Step :=
  match p.function? name arguments.length with
  | none => m.count place fun m => .ask name arguments place m
  | some f =>
    if f.body.isEmpty then .next (m.give .unit)
    else
      m.count place fun m =>
        if levelLimit ≤ m.level then .next (m.fail .callsTooDeep place)
        else .next <| { m with
            frames := .callee name place m.locals :: m.frames
            locals := (f.parameters.zip arguments).reverse
            level := m.level + 1 }.runAll f.body.statements

/-- Calls what a call names. -/
def invoke (p : Program) (m : Machine) (callee : Callee) (arguments : List Value)
    (place : Place) : Step :=
  match callee, arguments with
  | .binary op, [left, right] =>
    match op.direct? left right with
    | some result => .next (m.conclude result place)
    | none => m.count place fun m => .next (m.conclude (op.called left right) place)
  | .unary op, [operand] =>
    match op.direct? operand with
    | some v => .next (m.give v)
    | none => m.count place fun m => .next (m.conclude (op.called operand) place)
  | _, _ => m.invokeNamed p callee.name arguments place

/-- Evaluates the arguments of a call. -/
def startCall (p : Program) (m : Machine) (callee : Callee) (arguments : List Expr)
    (place : Place) : Step :=
  match callee, arguments with
  | callee, [] => m.invoke p callee [] place
  | .function name, .lookup x q :: second :: rest =>
    .next (m.push second (.otherArguments (.lookup x q) (.function name) place [] rest))
  | callee, first :: rest => .next (m.push first (.arguments callee place [] rest))

/-- Starts a round of a loop that a statement inside ends, or its condition. -/
def startRound (m : Machine) (condition : Option Expr) (body : Block) : Step :=
  match condition with
  | some test => .next (m.push test (.test test body))
  | none =>
    if body.isEmpty then
      m.count body.place fun m => .next { m with
        focus := .value .unit, frames := .round none body :: m.frames }
    else .next ({ m with frames := .round none body :: m.frames }.runScoped body)

/-- Starts a round of a loop through elements, or ends the loop. -/
def startEach (m : Machine) (name : String) (supply : Supply) (body : Block) (size : Nat) :
    Step :=
  let m := m.shrink size
  match supply.take with
  | none => .next (m.give .unit)
  | some (element, rest) =>
    let m := { m with
      frames := .each name rest body size :: m.frames
      locals := (name, element) :: m.locals }
    if body.isEmpty then m.count body.place fun m => .next (m.give .unit)
    else .next (m.runScoped body)

/-- Gives the latest variable of a name a value, and goes on without one. -/
def store (m : Machine) (name : String) (v : Value) : Machine :=
  { m with locals := setVariable name v m.locals }.give .unit

/-- Gives a variable a value, or the result of an operator on its value and another. -/
def assign (m : Machine) (op : Option BinaryOp) (name : String) (namePlace place : Place)
    (v : Value) : Step :=
  match m.locals.lookup name with
  | none => .next (m.fail (.unknownVariable name) namePlace)
  | some old =>
    m.count namePlace fun m =>
      let concluded (m : Machine) : Except Cause Value → Step
        | .ok new => .next (m.store name new)
        | .error cause => .next (m.fail cause place)
      match op with
      | none => concluded m (.ok v)
      | some op =>
        match op.direct? old v with
        | some result => concluded m result
        | none => m.count place fun m => concluded m (op.called old v)

/-- Evaluates an expression whose operation is counted. -/
def evaluate (p : Program) (m : Machine) : Expr → Step
  | .literal value _ => .next (m.give value.value)
  | .lookup name place =>
    match m.locals.lookup name with
    | some value => .next (m.give value)
    | none => .next (m.fail (.unknownVariable name) place)
  | .call callee arguments place => m.startCall p callee arguments place
  | .both left right _ => .next (m.push left (.both left.place right))
  | .either left right _ => .next (m.push left (.either left.place right))
  | .block body => .next (m.runScoped body)

/-- Runs a statement whose operation is counted. -/
def execute (p : Program) (m : Machine) : Stmt → Step
  | .skip _ => .next (m.give .unit)
  | .evaluate expr => .next { m with focus := .expression expr }
  | .call callee arguments place => m.startCall p callee arguments place
  | .block body => .next (m.runScoped body)
  | .bind name value _ => .next (m.push value (.bind name))
  | .assign op name namePlace value place => .next (m.push value (.assign op name namePlace place))
  | .branch condition yes no _ => .next (m.push condition (.branch condition.place yes no))
  | .choose subject cases otherwise _ => .next (m.push subject (.choose cases otherwise))
  | .repeatWhile condition body _ => m.startRound condition body
  | .forEach name sequence body _ =>
    .next (m.push sequence (.elements sequence.start name body))
  | .leave none _ => .next (m.raise (.leave .unit))
  | .leave (some value) _ => .next (m.push value .leave)
  | .nextRound _ => .next (m.raise .nextRound)
  | .finish none _ => .next (m.raise (.finish .unit))
  | .finish (some value) _ => .next (m.push value .finish)
  | .raise none place => .next (m.fail (.raised .unit) place)
  | .raise (some value) place => .next (m.push value (.raise place))
  | .attempt body name handler _ =>
    .next ({ m with frames := .guarded name handler m.locals.length :: m.frames }.runScoped body)

/-- Hands a value to a frame that has been taken off the stack. -/
def resume (p : Program) (m : Machine) (v : Value) : Frame → Step
  | .sequence rest => .next (m.runAll rest)
  | .scope size => .next ((m.shrink size).give v)
  | .arguments callee place done [] => m.invoke p callee (v :: done).reverse place
  | .arguments callee place done (next :: rest) =>
    .next (m.push next (.arguments callee place (v :: done) rest))
  | .otherArguments first callee place done [] =>
    .next (m.push first (.firstArgument callee place (v :: done).reverse))
  | .otherArguments first callee place done (next :: rest) =>
    .next (m.push next (.otherArguments first callee place (v :: done) rest))
  | .firstArgument callee place others => m.invoke p callee (v :: others) place
  | .both leftPlace right =>
    match v with
    | .bool true => .next (m.push right (.truth right.place))
    | .bool false => .next (m.give (.bool false))
    | other => .next (m.fail (.kindMismatch "bool" other.kindFound) leftPlace)
  | .either leftPlace right =>
    match v with
    | .bool true => .next (m.give (.bool true))
    | .bool false => .next (m.push right (.truth right.place))
    | other => .next (m.fail (.kindMismatch "bool" other.kindFound) leftPlace)
  | .truth place =>
    match v with
    | .bool b => .next (m.give (.bool b))
    | other => .next (m.fail (.kindMismatch "bool" other.kindFound) place)
  | .bind name => .next ({ m with locals := (name, v) :: m.locals }.give .unit)
  | .assign op name namePlace place => m.assign op name namePlace place v
  | .branch conditionPlace yes no =>
    match v with
    | .bool b => .next (m.runScoped (if b then yes else no))
    | other => .next (m.fail (.kindMismatch "bool" other.kindFound) conditionPlace)
  | .choose cases otherwise =>
    match selected? v cases otherwise with
    | some action => .next { m with focus := .expression action }
    | none => .next (m.give .unit)
  | .test condition body =>
    match v with
    | .bool false => .next (m.give .unit)
    | .bool true =>
      let m := { m with frames := .round (some condition) body :: m.frames }
      if body.isEmpty then m.count body.place fun m => .next (m.give .unit)
      else .next (m.runScoped body)
    | other => .next (m.fail (.kindMismatch "bool" other.kindFound) condition.place)
  | .round condition body => m.startRound condition body
  | .elements start name body =>
    match v.elements? with
    | some supply => m.startEach name supply body m.locals.length
    | none => .next (m.fail .notIterable start)
  | .each name supply body size => m.startEach name supply body size
  | .leave => .next (m.raise (.leave v))
  | .finish => .next (m.raise (.finish v))
  | .raise place => .next (m.fail (.raised v) place)
  | .guarded _ _ _ => .next (m.give v)
  | .handling _ => .next (m.give .unit)
  | .callee _ _ locals => .next ({ m with locals, level := m.level - 1 }.give v)

/-- Hands a signal to a frame that has been taken off the stack. -/
def unwind (m : Machine) : Signal → Frame → Step
  | s, .scope size => .next ((m.shrink size).raise s)
  | .leave v, .round _ _ => .next (m.give v)
  | .nextRound, .round condition body => m.startRound condition body
  | .leave v, .each _ _ _ size => .next ((m.shrink size).give v)
  | .nextRound, .each name supply body size => m.startEach name supply body size
  | s, .each _ _ _ size => .next ((m.shrink size).raise s)
  | .failed f, .guarded name handler size =>
    if f.cause.isLimit then .next (m.raise (.failed f))
    else
      let m := { m.shrink size with
        frames := .handling f :: .scope size :: m.frames }
      let m := match name with
        | some name => { m with locals := (name, f.caught) :: m.locals }
        | none => m
      .next (m.runScoped handler)
  | .failed { cause := .raised .unit, place }, .handling caught =>
    .next (m.raise (.failed { caught with place }))
  | .finish v, .callee _ _ locals => .next ({ m with locals, level := m.level - 1 }.give v)
  | .failed f, .callee name place locals =>
    .next ({ m with locals, level := m.level - 1 }.raise (.failed (f.around name place)))
  | s, _ => .next (m.raise s)

/-- A step of the machine. -/
def step (p : Program) (m : Machine) : Step :=
  match m.focus, m.frames with
  | .statement stmt, _ => m.count stmt.place (·.execute p stmt)
  | .expression expr, _ => m.count expr.place (·.evaluate p expr)
  | .value v, [] => .ended (.ok v)
  | .value v, frame :: frames => { m with frames }.resume p v frame
  | .signal s, [] => .ended s.result
  | .signal s, frame :: frames => { m with frames }.unwind s frame

/-- The machine before the first step of a program. -/
def load (p : Program) : Machine :=
  ({ focus := .value .unit } : Machine).runAll p.body

end Machine

end Overworld.Script
