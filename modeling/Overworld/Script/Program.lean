import Overworld.Script.Token

/-!
# Programs

A program is made of statements, and statements of expressions; blocks, conditionals
and choices may stand inside expressions too. Everything keeps the place that messages
name it by. Operators are calls of functions that the language itself defines.
-/

namespace Overworld.Script

/-- A literal. Binary64 values are given by their bits. -/
inductive Literal where
  | unit
  | bool (value : Bool)
  | int (value : Int)
  | float (bits : UInt64)
  | char (value : Char)
  | text (value : String)
  /-- The integers from `first` to `last`, without `last` unless it is `closed`. -/
  | range (first last : Int) (closed : Bool)
  deriving DecidableEq, Inhabited, Repr

/-- An operator of two operands that evaluates both. -/
inductive BinaryOp where
  | add
  | subtract
  | multiply
  | divide
  | modulo
  | power
  | shiftLeft
  | shiftRight
  | bitAnd
  | bitOr
  | bitXor
  | equal
  | notEqual
  | less
  | lessEqual
  | greater
  | greaterEqual
  | range
  | closedRange
  deriving DecidableEq, Inhabited, Repr

/-- An operator of one operand. -/
inductive UnaryOp where
  | negate
  | plus
  | not
  deriving DecidableEq, Inhabited, Repr

/-- How an operator is written. -/
def BinaryOp.symbol : BinaryOp → String
  | .add => "+"
  | .subtract => "-"
  | .multiply => "*"
  | .divide => "/"
  | .modulo => "%"
  | .power => "**"
  | .shiftLeft => "<<"
  | .shiftRight => ">>"
  | .bitAnd => "&"
  | .bitOr => "|"
  | .bitXor => "^"
  | .equal => "=="
  | .notEqual => "!="
  | .less => "<"
  | .lessEqual => "<="
  | .greater => ">"
  | .greaterEqual => ">="
  | .range => ".."
  | .closedRange => "..="

/-- How an operator is written. -/
def UnaryOp.symbol : UnaryOp → String
  | .negate => "-"
  | .plus => "+"
  | .not => "!"

/-- The operators of two operands. -/
def BinaryOp.all : List BinaryOp :=
  [.add, .subtract, .multiply, .divide, .modulo, .power, .shiftLeft, .shiftRight, .bitAnd, .bitOr,
    .bitXor, .equal, .notEqual, .less, .lessEqual, .greater, .greaterEqual, .range, .closedRange]

/-- The operator of a symbol. -/
def BinaryOp.ofSymbol? (symbol : String) : Option BinaryOp :=
  BinaryOp.all.find? (·.symbol = symbol)

/-- Whether an operator may stand in front of an equality sign. -/
def BinaryOp.assigns : BinaryOp → Bool
  | .add | .subtract | .multiply | .divide | .modulo | .power | .shiftLeft | .shiftRight
  | .bitAnd | .bitOr | .bitXor => true
  | _ => false

/-- What a call names. -/
inductive Callee where
  | function (name : String)
  | unary (op : UnaryOp)
  | binary (op : BinaryOp)
  deriving DecidableEq, Inhabited, Repr

/-- The name of what a call names. -/
def Callee.name : Callee → String
  | .function name => name
  | .unary op => op.symbol
  | .binary op => op.symbol

mutual

/-- An expression. -/
inductive Expr where
  | literal (value : Literal) (place : Place)
  | lookup (name : String) (place : Place)
  | call (callee : Callee) (arguments : List Expr) (place : Place)
  | both (left right : Expr) (place : Place)
  | either (left right : Expr) (place : Place)
  | block (body : Block)

/-- A statement. -/
inductive Stmt where
  | skip (place : Place)
  | evaluate (expr : Expr)
  /-- A call for its own sake. -/
  | call (callee : Callee) (arguments : List Expr) (place : Place)
  | block (body : Block)
  | bind (name : String) (value : Expr) (place : Place)
  /-- Gives a variable a value, or the result of an operator on its value and another. -/
  | assign (op : Option BinaryOp) (name : String) (namePlace : Place) (value : Expr)
      (place : Place)
  | branch (condition : Expr) (yes no : Block) (place : Place)
  /-- Evaluates the first case with a literal that the subject equals, the default without one. -/
  | choose (subject : Expr) (cases : List (List Literal × Expr)) (otherwise : Option Expr)
      (place : Place)
  /-- A loop with a condition; without one it is ended from inside. -/
  | repeatWhile (condition : Option Expr) (body : Block) (place : Place)
  | forEach (name : String) (sequence : Expr) (body : Block) (place : Place)
  | leave (value : Option Expr) (place : Place)
  | nextRound (place : Place)
  | finish (value : Option Expr) (place : Place)
  | raise (value : Option Expr) (place : Place)
  | attempt (body : Block) (name : Option String) (handler : Block) (place : Place)

/-- Statements in braces, with a scope of their own. -/
inductive Block where
  | of (statements : List Stmt) (place : Place)

end

instance : Inhabited Expr := ⟨.literal .unit {}⟩

instance : Inhabited Stmt := ⟨.skip {}⟩

instance : Inhabited Block := ⟨.of [] {}⟩

namespace Block

/-- The statements of a block. -/
def statements : Block → List Stmt
  | of body _ => body

/-- The place of the opening brace. -/
def place : Block → Place
  | of _ p => p

/-- Whether a block has no statements. -/
def isEmpty (b : Block) : Bool := b.statements.isEmpty

end Block

namespace Expr

/-- The place that an expression is named by. -/
def place : Expr → Place
  | literal _ p | lookup _ p | call _ _ p | both _ _ p | either _ _ p => p
  | block body => body.place

/-- The place where an expression begins. -/
def start : Expr → Place
  | both left _ _ | either left _ _ => left.start
  | other => other.place

/-- The value of a literal. -/
def literal? : Expr → Option Literal
  | literal value _ => some value
  | _ => none

end Expr

namespace Stmt

/-- The place that a statement is named by. -/
def place : Stmt → Place
  | skip p | call _ _ p | bind _ _ p | assign _ _ _ _ p | branch _ _ _ p | choose _ _ _ p
  | repeatWhile _ _ p | forEach _ _ _ p | leave _ p | nextRound p | finish _ p | raise _ p
  | attempt _ _ _ p => p
  | evaluate expr => expr.start
  | block body => body.place

/-- Whether a statement does nothing at all. -/
def isSkip : Stmt → Bool
  | skip _ => true
  | _ => false

/-- Whether a statement ends with its closing brace, so that no semicolon has to follow. -/
def endsItself : Stmt → Bool
  | block _ | branch _ _ _ _ | choose _ _ _ _ | repeatWhile _ _ _ | forEach _ _ _ _
  | attempt _ _ _ _ => true
  | _ => false

/-- The block of a statement; any statement but a block stands alone in it. -/
def toBlock : Stmt → Block
  | skip p => .of [] p
  | block body => body
  | other => .of [other] other.place

end Stmt

/-- A function of a script. -/
structure Function where
  name : String
  parameters : List String
  body : Block
  deriving Inhabited

/-- A script that has been read. -/
structure Program where
  functions : List Function
  body : List Stmt
  deriving Inhabited

/-- The function with a name and a number of parameters. -/
def Program.function? (p : Program) (name : String) (count : Nat) : Option Function :=
  p.functions.find? fun f => f.name = name && f.parameters.length = count

end Overworld.Script
