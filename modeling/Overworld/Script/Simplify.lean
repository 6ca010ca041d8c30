import Overworld.Script.Operation

/-!
# Simplifying programs

Before a program runs, operations on literals are replaced by their results, branches that
literals decide are chosen, and pure statements whose value nothing uses are dropped. What
is pure has no effect and cannot fail; the name of a variable is not pure, since the
variable may be unknown.
-/

namespace Overworld.Script

mutual

/-- Whether an expression has no effect and cannot fail. -/
def Expr.isPure : Expr → Bool
  | .literal _ _ => true
  | .both left right _ | .either left right _ => left.isPure && right.isPure
  | .block body => body.isPure
  | .lookup _ _ | .call _ _ _ => false

/-- Whether a statement has no effect and cannot fail. -/
def Stmt.isPure : Stmt → Bool
  | .skip _ => true
  | .evaluate expr => expr.isPure
  | .block body => body.isPure
  | .branch condition yes no _ => condition.isPure && yes.isPure && no.isPure
  | .choose subject cases (some otherwise) _ =>
    subject.isPure && casesPure cases && otherwise.isPure
  | .repeatWhile (some (.literal (.bool false) _)) _ _ => true
  | .forEach _ sequence body _ => sequence.isPure && body.isPure
  | .attempt body none handler _ => body.isPure && handler.isPure
  | _ => false

/-- Whether a block has no effect and cannot fail. -/
def Block.isPure : Block → Bool
  | .of body _ => allPure body

/-- Whether all of some statements are pure. -/
def allPure : List Stmt → Bool
  | [] => true
  | stmt :: rest => stmt.isPure && allPure rest

/-- Whether all cases of a choice are pure. -/
def casesPure : List (List Literal × Expr) → Bool
  | [] => true
  | (_, expr) :: rest => expr.isPure && casesPure rest

end

namespace Stmt

/-- Whether a statement binds a name that the statements behind it in its block may use. -/
def isBind : Stmt → Bool
  | bind _ _ _ => true
  | _ => false

/-- Whether a statement binds a name to a literal. -/
def bindsLiteral : Stmt → Bool
  | bind _ (.literal _ _) _ => true
  | _ => false

/-- Whether a statement has a value of its own. -/
def hasValue : Stmt → Bool
  | branch _ _ _ _ | choose _ _ _ _ | block _ | evaluate _ | call _ _ _ => true
  | _ => false

/-- Whether nothing behind a statement in its block is ever run. -/
def breaksOff : Stmt → Bool
  | leave _ _ | nextRound _ | finish _ _ | raise _ _ => true
  | _ => false

/-- The statement that a block is, with the block left out where it makes no difference. -/
def ofBlock : Block → Stmt
  | .of [] p => skip p
  | .of [stmt] p => if stmt.isBind then block (.of [stmt] p) else stmt
  | body => block body

/-- The statement that evaluates an expression. -/
def ofExpr : Expr → Stmt
  | .call callee arguments p => call callee arguments p
  | .block body => ofBlock body
  | expr => evaluate expr

/-- An assignment. One of an operator on the variable itself takes the operator along. -/
def assigning (op : Option BinaryOp) (name : String) (namePlace : Place) (value : Expr)
    (place : Place) : Stmt :=
  let unchanged := assign op name namePlace value place
  match op, value with
  | none, .call (.binary op) [.lookup other _, right] opPlace =>
    if other = name && op.assigns then assign (some op) name namePlace right opPlace
    else unchanged
  | _, _ => unchanged

end Stmt

mutual

/-- The statements that a statement stands for, without braces that make no difference. -/
def Stmt.spliced : Stmt → List Stmt
  | .block (.of body p) =>
    if body.any Stmt.isBind then [.block (.of body p)] else allSpliced body
  | other => [other]

/-- The statements that some statements stand for. -/
def allSpliced : List Stmt → List Stmt
  | [] => []
  | stmt :: rest => stmt.spliced ++ allSpliced rest

end

/-- Which statements of a block are needed. -/
structure Need where
  /-- Whether the value of the block is used. -/
  keep : Bool
  /-- Whether names that the block binds are out of reach behind it. -/
  inner : Bool
  /-- Whether the end of the block is the end of a function or of the whole script. -/
  final : Bool
  deriving DecidableEq, Inhabited, Repr

namespace Need

/-- Whether a statement can be left out at the end of a block. -/
def spares (need : Need) : Stmt → Bool
  | .bind _ value _ => need.inner && value.isPure
  | stmt => stmt.isPure

/-- Whether the statements in front of a statement cannot all be judged as those at the end. -/
def marks (need : Need) (stmt : Stmt) : Bool :=
  !need.spares stmt || stmt.bindsLiteral ||
    match stmt with
    | .evaluate expr => expr.literal?.isNone
    | _ => false

/-- The statements up to the first one that breaks off. -/
def live : List Stmt → List Stmt
  | [] => []
  | stmt :: rest => if stmt.breaksOff then [stmt] else stmt :: live rest

/-- The statements without the pure ones; a last one whose value is used stays. -/
def effective (need : Need) : List Stmt → List Stmt
  | [] => []
  | [last] => if need.keep || !need.spares last then [last] else []
  | stmt :: rest =>
    let spared := stmt.isPure || need.spares stmt && !rest.any need.marks
    if spared then need.effective rest else stmt :: need.effective rest

/-- Statements, last first, without those at the end that change nothing: neither what happens nor
the value. -/
def trimmed (need : Need) : List Stmt → List Stmt
  | [] => []
  | [.finish none p] => if need.final then [] else [.finish none p]
  | [last] => if !last.hasValue && need.spares last then [] else [last]
  | last :: before :: rest =>
    let spared := match last with
      | .finish none _ => need.final
      | last => !last.hasValue && need.spares last
    if spared then
      if before.hasValue then .skip last.place :: before :: rest
      else need.trimmed (before :: rest)
    else last :: before :: rest

/-- The end of a function or of the script, last first, as a value instead of a return. -/
def returned (need : Need) : List Stmt → List Stmt
  | .finish (some expr) p :: rest =>
    if need.final then Stmt.ofExpr expr :: rest else .finish (some expr) p :: rest
  | body => body

/-- The statements of a block that are left by one pass over it. -/
def pass (need : Need) (body : List Stmt) : List Stmt :=
  let body := (need.effective (live body)).reverse
  (if need.keep then need.returned (need.trimmed body) else body.dropWhile need.spares).reverse

/-- The statements of a block that are needed. `steps` bounds the number of passes. -/
def needed (need : Need) : Nat → List Stmt → List Stmt
  | 0, body => body
  | steps + 1, body =>
    let left := need.pass body
    if left.length < body.length then need.needed steps left else left

end Need

namespace Expr

/-- The expression that a block is. -/
def ofBlock : Block → Expr
  | .of [] p => literal .unit p
  | .of [.evaluate expr] _ => expr
  | body => block body

/-- A call, or the literal that it results in. -/
def folded (callee : Callee) (arguments : List Expr) (place : Place) : Expr :=
  let unchanged := call callee arguments place
  match callee, arguments with
  | .binary op, [literal a _, literal b _] =>
    match op.direct? a.value b.value with
    | some (.ok value) => (value.literal?.map (literal · place)).getD unchanged
    | _ => unchanged
  | .unary .not, [literal (.bool b) _] => literal (.bool (!b)) place
  | _, _ => unchanged

/-- A conjunction, without operands that literals make needless. -/
def conjunction (left right : Expr) (place : Place) : Expr :=
  match left, right with
  | literal (.bool true) _, right => right
  | literal (.bool false) p, _ => literal (.bool false) p
  | left, literal (.bool true) _ => left
  | left, right => both left right place

/-- A disjunction, without operands that literals make needless. -/
def disjunction (left right : Expr) (place : Place) : Expr :=
  match left, right with
  | literal (.bool false) _, right => right
  | literal (.bool true) p, _ => literal (.bool true) p
  | left, literal (.bool false) _ => left
  | left, right => either left right place

end Expr

/-- A conditional, or what is left of one that its condition or its branches decide. -/
def Stmt.decided (keep : Bool) (condition : Expr) (yes no : Block) (place : Place) : Stmt :=
  match condition with
  | .literal (.bool true) _ => ofBlock yes
  | .literal (.bool false) _ => ofBlock no
  | _ =>
    if !yes.isEmpty || !no.isEmpty then branch condition yes no place
    else if !keep then ofExpr condition
    else if condition.isPure then skip place
    else block (.of ((ofExpr condition).spliced ++ [skip place]) place)

/-- A choice, or the case that a literal selects. -/
def Stmt.chosen (subject : Expr) (cases : List (List Literal × Expr)) (otherwise : Option Expr)
    (place : Place) : Stmt :=
  match subject with
  | .literal value _ => ((selected? value.value cases otherwise).map ofExpr).getD (skip place)
  | _ => choose subject cases otherwise place

/-- A loop with a condition, unless the condition is a literal. -/
def Stmt.looping (condition : Expr) (body : Block) (place : Place) : Stmt :=
  match condition with
  | .literal (.bool false) p => skip p
  | .literal (.bool true) _ => repeatWhile none body place
  | _ => repeatWhile (some condition) body place

/-- The block of these statements inside another block. -/
def Block.tidied (keep : Bool) (body : List Stmt) (place : Place) : Block :=
  let need : Need := { keep, inner := true, final := false }
  let body := allSpliced body
  .of (need.needed (body.length + 1) body) place

mutual

/-- The simplified form of an expression. -/
def Expr.simplified : Expr → Expr
  | .literal value p => .literal value p
  | .lookup name p => .lookup name p
  | .call callee arguments p => .folded callee (exprsSimplified arguments) p
  | .both left right p => .conjunction left.simplified right.simplified p
  | .either left right p => .disjunction left.simplified right.simplified p
  | .block (.of [.evaluate expr] _) => expr.simplified
  | .block body => .ofBlock (body.simplified true)

/-- The simplified form of a statement; `keep` says whether the value of its block is used. -/
def Stmt.simplified (keep : Bool) : Stmt → Stmt
  | .skip p => .skip p
  | .evaluate (.block body) => .ofBlock (body.simplified keep)
  | .evaluate expr => .ofExpr expr.simplified
  | .call callee arguments p => .ofExpr (.folded callee (exprsSimplified arguments) p)
  | .block body => .ofBlock (body.simplified keep)
  | .bind name value p => .bind name value.simplified p
  | .assign op name namePlace value p => .assigning op name namePlace value.simplified p
  | .branch condition yes no p =>
    .decided keep condition.simplified (yes.simplified keep) (no.simplified keep) p
  | .choose subject cases none p => .chosen subject.simplified (casesSimplified cases) none p
  | .choose subject cases (some otherwise) p =>
    .chosen subject.simplified (casesSimplified cases) (some otherwise.simplified) p
  | .repeatWhile none body p => .repeatWhile none (body.simplified false) p
  | .repeatWhile (some condition) body p =>
    .looping condition.simplified (body.simplified false) p
  | .forEach name sequence body p =>
    .forEach name sequence.simplified (body.simplified false) p
  | .leave none p => .leave none p
  | .leave (some value) p => .leave (some value.simplified) p
  | .nextRound p => .nextRound p
  | .finish none p => .finish none p
  | .finish (some value) p => .finish (some value.simplified) p
  | .raise none p => .raise none p
  | .raise (some value) p => .raise (some value.simplified) p
  | .attempt body name handler p =>
    let body := body.simplified false
    if body.isPure then .ofBlock body else .attempt body name (handler.simplified false) p

/-- The simplified form of a block. -/
def Block.simplified (keep : Bool) : Block → Block
  | .of body p => .tidied keep (stmtsSimplified keep body) p

/-- The simplified forms of expressions. -/
def exprsSimplified : List Expr → List Expr
  | [] => []
  | expr :: rest => expr.simplified :: exprsSimplified rest

/-- The simplified forms of statements. -/
def stmtsSimplified (keep : Bool) : List Stmt → List Stmt
  | [] => []
  | stmt :: rest => stmt.simplified keep :: stmtsSimplified keep rest

/-- The simplified forms of the cases of a choice. -/
def casesSimplified : List (List Literal × Expr) → List (List Literal × Expr)
  | [] => []
  | (labels, expr) :: rest => (labels, expr.simplified) :: casesSimplified rest

end

/-- The simplified form of the statements of a function or of a whole script. -/
def simplifiedBody (body : List Stmt) : List Stmt :=
  let need : Need := { keep := true, inner := false, final := true }
  let body := stmtsSimplified true (allSpliced body)
  need.needed (body.length + 1) body

/-- The simplified form of a program. -/
def Program.simplified (p : Program) : Program where
  functions := p.functions.map fun f =>
    { f with body := .of (simplifiedBody f.body.statements) f.body.place }
  body := simplifiedBody p.body

end Overworld.Script
