import Overworld.Script.Program

/-!
# Values of the script language

Integers have 64 bits; arithmetic that leaves them fails. Every value has a text,
which is what joining it to a string appends.
-/

namespace Overworld.Script

/-- A value. Binary64 values are given by their bits. A `report` describes a failure that a script
caught. -/
inductive Value where
  | unit
  | bool (value : Bool)
  | int (value : Int)
  | float (bits : UInt64)
  | char (value : Char)
  | text (value : String)
  | range (first last : Int) (closed : Bool)
  | report (fields : List (String × Value))
  deriving Inhabited

/-- The value of a literal. -/
def Literal.value : Literal → Value
  | .unit => .unit
  | .bool b => .bool b
  | .int n => .int n
  | .float bits => .float bits
  | .char c => .char c
  | .text s => .text s
  | .range first last closed => .range first last closed

/-- What is left of the elements that a loop walks through. -/
inductive Supply where
  /-- The integers from `next` on that are less than `stop`. -/
  | integers (next stop : Int)
  | characters (rest : List Char)
  deriving DecidableEq, Inhabited, Repr

/-- The text of a decimal that stands between the least and the greatest one written in full. -/
def decimalText (d : Decimal.Scaled) : String :=
  if -6 ≤ d.point ∧ (d.point ≤ 13 ∨ d.point = 14 ∧ d.digits = 1) then
    d.positional ++ (if 0 ≤ d.exponent then ".0" else "")
  else d.mantissa ++ "e" ++ toString (d.point - 1)

/-- The text of a binary64 value. -/
def floatText (bits : UInt64) : String :=
  let f := Float.ofBits bits
  if f == 0 then "0.0"
  else if f.isNaN then "NaN"
  else if f.isInf then (if f < 0 then "-inf" else "inf")
  else Decimal.textWith decimalText bits

namespace Value

/-- The literal of a value, unless it is a report. -/
def literal? : Value → Option Literal
  | unit => some .unit
  | bool b => some (.bool b)
  | int n => some (.int n)
  | float bits => some (.float bits)
  | char c => some (.char c)
  | text s => some (.text s)
  | range first last closed => some (.range first last closed)
  | report _ => none

/-- The elements that a loop walks through. -/
def elements? : Value → Option Supply
  | range first last closed => some (.integers first (if closed then last + 1 else last))
  | text s => some (.characters s.toList)
  | _ => none

/-- The kind of a value, as it stands in the signature of a call. -/
def kind : Value → String
  | unit => "()"
  | bool _ => "bool"
  | int _ => "i64"
  | float _ => "f64"
  | char _ => "char"
  | text _ => "&str | ImmutableString | String"
  | range _ _ closed => if closed then "range=" else "range"
  | report _ => "map"

/-- The kind of a value where one of another kind has to stand. -/
def kindFound : Value → String
  | text _ => "string"
  | range _ _ closed => "core::ops::range::Range" ++ (if closed then "Inclusive" else "") ++ "<i64>"
  | other => other.kind

/-- A character of a quoted text. -/
def quoteChar : Char → String
  | '"' => "\\\""
  | '\\' => "\\\\"
  | '\n' => "\\n"
  | '\r' => "\\r"
  | '\t' => "\\t"
  | c => c.toString

/-- A text between quotation marks. -/
def quote (s : String) : String :=
  "\"" ++ String.join (s.toList.map quoteChar) ++ "\""

/-- The text of a value. -/
def toText : Value → String
  | unit => ""
  | bool b => if b then "true" else "false"
  | int n => toString n
  | float bits => floatText bits
  | char c => c.toString
  | text s => s
  | range first last closed => toString first ++ (if closed then "..=" else "..") ++ toString last
  | report fields => "#\x7b" ++ ", ".intercalate (fieldTexts fields) ++ "\x7d"
where
  /-- The texts of the fields of a report. -/
  fieldTexts : List (String × Value) → List String
    | [] => []
    | (name, .text s) :: rest => (quote name ++ ": " ++ quote s) :: fieldTexts rest
    | (name, value) :: rest => (quote name ++ ": " ++ value.toText) :: fieldTexts rest

end Value

/-- The next element and the rest. -/
def Supply.take : Supply → Option (Value × Supply)
  | .integers next stop =>
    if next < stop then some (.int next, .integers (next + 1) stop) else none
  | .characters [] => none
  | .characters (c :: rest) => some (.char c, .characters rest)

/-- The call of a function as it stands in messages. -/
def signature (name : String) (arguments : List Value) : String :=
  name ++ " (" ++ ", ".intercalate (arguments.map Value.kind) ++ ")"

end Overworld.Script
