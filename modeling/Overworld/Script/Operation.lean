import Overworld.Script.Failure

/-!
# Operations on script values

Arithmetic on integers is exact or fails. Values of different kinds are never equal and
never in order, apart from numbers of both kinds, and characters beside texts. Joining
anything to a text gives a text; that takes the call of a function, the other
operations do not.
-/

namespace Overworld.Script

/-- What an operator says about the order of its operands, for the operators that compare. -/
def BinaryOp.comparison? : BinaryOp → Option (Ordering → Bool)
  | .equal => some (· == .eq)
  | .notEqual => some (· != .eq)
  | .less => some (· == .lt)
  | .lessEqual => some (· != .gt)
  | .greater => some (· == .gt)
  | .greaterEqual => some (· != .lt)
  | _ => none

/-- How an operator compares binary64 values. -/
def BinaryOp.compareFloats (op : BinaryOp) (a b : Float) : Option Bool :=
  match op with
  | .equal => some (a == b)
  | .notEqual => some (a != b)
  | .less => some (a < b)
  | .lessEqual => some (a ≤ b)
  | .greater => some (b < a)
  | .greaterEqual => some (b ≤ a)
  | _ => none

/-- The order of two values that are neither both numbers nor of different kinds; characters are
ordered as texts, and texts by code points. -/
def Value.order? : Value → Value → Option Ordering
  | .bool a, .bool b => some (compare a.toNat b.toNat)
  | .int a, .int b => some (compare a b)
  | .char a, .char b => some (compare a.toNat b.toNat)
  | .text a, .text b => some (compare a b)
  | .char a, .text b => some (compare a.toString b)
  | .text a, .char b => some (compare a b.toString)
  | _, _ => none

/-- Whether two values have the same kind. -/
def Value.sameKind (a b : Value) : Bool := a.kind = b.kind

/-- The result of an operator that compares, unless nothing is known about the operands. Values of
one kind that are in no order may still be the same. -/
def BinaryOp.compare? (op : BinaryOp) (holds : Ordering → Bool) (a b : Value) : Option Bool :=
  match a, b with
  | .unit, .unit => some (op = .equal)
  | .float x, .float y => op.compareFloats (Float.ofBits x) (Float.ofBits y)
  | .int x, .float y => op.compareFloats (Float.ofInt x) (Float.ofBits y)
  | .float x, .int y => op.compareFloats (Float.ofBits x) (Float.ofInt y)
  | a, b =>
    match a.order? b with
    | some order => some (holds order)
    | none =>
      if !a.sameKind b then some (op = .notEqual)
      else if op = .equal then some (a.toText = b.toText)
      else if op = .notEqual then some (a.toText ≠ b.toText)
      else none

/-- The result of exact arithmetic, if it has 64 bits. -/
def exactly (name symbol : String) (a b result : Int) : Except Cause Value :=
  if fitsInt result then .ok (.int result)
  else .error (.arithmetic (name ++ ": " ++ toString a ++ " " ++ symbol ++ " " ++ toString b))

/-- Shifts the bits of an integer to the left, or to the right if the distance is negative. -/
def shifted (a distance : Int) : Int :=
  if 0 ≤ distance then
    if distance < 64 then (Int64.ofInt a <<< Int64.ofInt distance).toInt else 0
  else if -64 < distance then (Int64.ofInt a >>> Int64.ofInt (-distance)).toInt
  else if a < 0 then -1 else 0

/-- A power with an integer as its exponent. -/
def powerOf (a b : Int) : Except Cause Value :=
  let fault (name : String) : Except Cause Value :=
    .error (.arithmetic (name ++ ": " ++ toString a ++ " ** " ++ toString b))
  if 4294967295 < b then fault "Exponential overflow"
  else if b < 0 then fault "Integer raised to a negative power"
  else if a.natAbs ≤ 1 then .ok (.int (if b = 0 then 1 else if b % 2 = 0 then a * a else a))
  else if b < 64 then exactly "Exponential overflow" "**" a b (Int.pow a b.toNat)
  else fault "Exponential overflow"

/-- The result of an operator on two integers, if it is one of arithmetic. -/
def BinaryOp.onIntegers? (op : BinaryOp) (a b : Int) : Option (Except Cause Value) :=
  let bits (f : Int64 → Int64 → Int64) : Except Cause Value :=
    .ok (.int (f (Int64.ofInt a) (Int64.ofInt b)).toInt)
  match op with
  | .add => some (exactly "Addition overflow" "+" a b (a + b))
  | .subtract => some (exactly "Subtraction overflow" "-" a b (a - b))
  | .multiply => some (exactly "Multiplication overflow" "*" a b (a * b))
  | .divide => some <|
    if b = 0 then
      .error (.arithmetic ("Division by zero: " ++ toString a ++ " / " ++ toString b))
    else exactly "Division overflow" "/" a b (a.tdiv b)
  | .modulo => some <|
    if b = 0 ∨ a = leastInt ∧ b = -1 then
      .error (.arithmetic
        ("Modulo division by zero or overflow: " ++ toString a ++ " % " ++ toString b))
    else .ok (.int (a.tmod b))
  | .power => some (powerOf a b)
  | .shiftLeft => some (.ok (.int (shifted a b)))
  | .shiftRight => some (.ok (.int (shifted a (-b))))
  | .bitAnd => some (bits (· &&& ·))
  | .bitOr => some (bits (· ||| ·))
  | .bitXor => some (bits (· ^^^ ·))
  | .range => some (.ok (.range a b false))
  | .closedRange => some (.ok (.range a b true))
  | _ => none

/-- The result of an operator on two binary64 values, if it is one of arithmetic. -/
def BinaryOp.onFloats? (op : BinaryOp) (a b : Float) : Option Value :=
  match op with
  | .add => some (.float (a + b).toBits)
  | .subtract => some (.float (a - b).toBits)
  | .multiply => some (.float (a * b).toBits)
  | .divide => some (.float (a / b).toBits)
  | _ => none

/-- The result of an operator on two booleans, if it is one of arithmetic. -/
def BinaryOp.onBooleans? (op : BinaryOp) (a b : Bool) : Option Value :=
  match op with
  | .bitAnd => some (.bool (a && b))
  | .bitOr => some (.bool (a || b))
  | .bitXor => some (.bool (a != b))
  | _ => none

/-- Characters without the occurrences of others, taken from left to right. `steps` bounds their
number. -/
def withoutPart (part : List Char) : Nat → List Char → List Char
  | 0, cs => cs
  | _, [] => []
  | steps + 1, c :: rest =>
    if part.isPrefixOf (c :: rest) then withoutPart part steps ((c :: rest).drop part.length)
    else c :: withoutPart part steps rest

/-- A text without the occurrences of another. Where one of them is empty, the other is left. -/
def textWithout (s part : String) : String :=
  if part = "" then s
  else if s = "" then part
  else String.ofList (withoutPart part.toList s.length s.toList)

/-- The result of an operator on two texts, if it is one of arithmetic. -/
def BinaryOp.onTexts? (op : BinaryOp) (a b : String) : Option Value :=
  match op with
  | .add => some (.text (a ++ b))
  | .subtract => some (.text (textWithout a b))
  | _ => none

/-- The result of an operator of arithmetic that takes no call of a function. -/
def BinaryOp.arithmetic? (op : BinaryOp) : Value → Value → Option (Except Cause Value)
  | .int a, .int b => op.onIntegers? a b
  | .float a, .float b => (op.onFloats? (Float.ofBits a) (Float.ofBits b)).map .ok
  | .int a, .float b => (op.onFloats? (Float.ofInt a) (Float.ofBits b)).map .ok
  | .float a, .int b => (op.onFloats? (Float.ofBits a) (Float.ofInt b)).map .ok
  | .bool a, .bool b => (op.onBooleans? a b).map .ok
  | .text a, .text b => (op.onTexts? a b).map .ok
  | .text a, .char b => (op.onTexts? a b.toString).map .ok
  | .char a, .text b => if op = .add then some (.ok (.text (a.toString ++ b))) else none
  | .char a, .char b =>
    if op = .add then some (.ok (.text (a.toString ++ b.toString))) else none
  | .text a, .unit => if op = .add then some (.ok (.text a)) else none
  | .unit, .text b => if op = .add then some (.ok (.text b)) else none
  | _, _ => none

/-- The result of an operator that takes no call of a function. -/
def BinaryOp.direct? (op : BinaryOp) (a b : Value) : Option (Except Cause Value) :=
  match op.comparison? with
  | some holds => (op.compare? holds a b).map (.ok ∘ .bool)
  | none => op.arithmetic? a b

/-- The result of an operator that takes the call of a function: it joins a value and a text. -/
def BinaryOp.called (op : BinaryOp) (a b : Value) : Except Cause Value :=
  match op, a, b with
  | .add, .text x, other => .ok (.text (x ++ other.toText))
  | .add, other, .text y => .ok (.text (other.toText ++ y))
  | _, _, _ => .error (.unknownFunction (signature op.symbol [a, b]))

/-- The result of an operator on one value that takes no call of a function. -/
def UnaryOp.direct? : UnaryOp → Value → Option Value
  | .not, .bool b => some (.bool (!b))
  | _, _ => none

/-- The result of an operator on one value that takes the call of a function. -/
def UnaryOp.called (op : UnaryOp) (a : Value) : Except Cause Value :=
  match op, a with
  | .negate, .int n =>
    if fitsInt (-n) then .ok (.int (-n)) else .error (.arithmetic "integer overflow")
  | .negate, .float bits => .ok (.float (-(Float.ofBits bits)).toBits)
  | .plus, .int n => .ok (.int n)
  | .plus, .float bits => .ok (.float bits)
  | _, _ => .error (.unknownFunction (signature op.symbol [a]))

/-- Whether a value is the one that the label of a case stands for. -/
def Literal.selects (label : Literal) (value : Value) : Bool :=
  value.literal? = some label

/-- Whether the label of a case is a range with a value in it. -/
def Literal.spans (label : Literal) (value : Value) : Bool :=
  match label, value with
  | .range first last closed, .int n => first ≤ n && (if closed then n ≤ last else n < last)
  | _, _ => false

/-- The case of a choice that a value selects. Ranges come after all other labels. -/
def selected? (value : Value) (cases : List (List Literal × Expr)) (otherwise : Option Expr) :
    Option Expr :=
  ((cases.find? fun case => case.1.any (·.selects value)).or
    (cases.find? fun case => case.1.any (·.spans value))).elim otherwise (some ·.2)

end Overworld.Script
