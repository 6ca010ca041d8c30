/-!
# Reading integers

A decimal integer with an optional sign, read from left to right. The first digit
that is none, or that carries the value out of its bounds, decides the error.
-/

namespace Overworld.Text

/-- Why a text is no integer of the type asked for. -/
inductive IntegerError where
  | empty
  | invalidDigit
  | tooLarge
  | tooSmall
  deriving DecidableEq, Inhabited, Repr

/-- The wording of an error. -/
def IntegerError.message : IntegerError → String
  | .empty => "cannot parse integer from empty string"
  | .invalidDigit => "invalid digit found in string"
  | .tooLarge => "number too large to fit in target type"
  | .tooSmall => "number too small to fit in target type"

/-- Reads digits behind `n`, each of which moves the value by `sign` times itself. -/
def digits (low high sign : Int) (n : Int) : List Char → Except IntegerError Int
  | [] => .ok n
  | c :: rest =>
    if c.isDigit then
      let next := n * 10 + sign * (c.toNat - '0'.toNat : Nat)
      if high < next then .error .tooLarge
      else if next < low then .error .tooSmall
      else digits low high sign next rest
    else .error .invalidDigit

/-- Reads an integer between two bounds. A minus sign is read only where negative numbers are
allowed. -/
def integer (low high : Int) (text : String) : Except IntegerError Int :=
  match text.toList with
  | [] => .error .empty
  | ['+'] | ['-'] => .error .invalidDigit
  | '+' :: rest => digits low high 1 0 rest
  | '-' :: rest => if low < 0 then digits low high (-1) 0 rest else .error .invalidDigit
  | all => digits low high 1 0 all

/-- Natural numbers below a bound. -/
def natural (bound : Nat) (text : String) : Except IntegerError Nat :=
  (integer 0 (bound - 1) text).map Int.toNat

end Overworld.Text
