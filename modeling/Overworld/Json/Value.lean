/-!
# JSON values

A value as a program keeps it. Numbers are whole, with their exact value, or
binary64, by their bits. The fields of an object stand in ascending order of
their keys, and each key stands once.
-/

namespace Overworld

/-- A kept number: whole, or the bits of a binary64 value. -/
inductive Json.Number where
  | whole (value : Int)
  | double (bits : UInt64)
  deriving DecidableEq, Inhabited

/-- A JSON value. -/
inductive Json where
  | null
  | bool (value : Bool)
  | num (value : Json.Number)
  | str (value : String)
  | arr (items : List Json)
  | obj (fields : List (String × Json))
  deriving Inhabited

namespace Json

/-- A whole number as a value. -/
def int (n : Int) : Json := .num (.whole n)

/-- A natural number as a value. -/
def nat (n : Nat) : Json := .int n

/-- The value, or null when there is none. -/
def ofOption {α : Type} (f : α → Json) : Option α → Json
  | none => .null
  | some a => f a

/-- Puts a field where its key belongs; a later value of the same key replaces the earlier one. -/
def insertField (key : String) (value : Json) : List (String × Json) → List (String × Json)
  | [] => [(key, value)]
  | (k, v) :: rest =>
    if key < k then (key, value) :: (k, v) :: rest
    else if key = k then (key, value) :: rest
    else (k, v) :: insertField key value rest

/-- The field of an object; none for other values. -/
def field? (key : String) : Json → Option Json
  | .obj fields => fields.lookup key
  | _ => none

/-- The whole number held, when it fits in 64 bits with a sign. -/
def asInt64? : Json → Option Int
  | .num (.whole n) => if -9223372036854775808 ≤ n ∧ n < 9223372036854775808 then some n else none
  | _ => none

/-- The text held. -/
def asText? : Json → Option String
  | .str s => some s
  | _ => none

end Json

end Overworld
