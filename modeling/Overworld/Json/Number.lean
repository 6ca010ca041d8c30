import Overworld.Json.Value

/-!
# Reading numbers

A number without point and exponent is whole when it fits in 64 bits. Any other
is binary64: its first digits, as many as fit in 64 bits, are converted and then
scaled by one power of ten. A value beyond the largest binary64 is refused.
-/

namespace Overworld.Json.Number

/-- The parts of a written number, its digits as values below ten. -/
structure Written where
  negative : Bool := false
  whole : List Nat := []
  fraction : Option (List Nat) := none
  exponentNegative : Bool := false
  exponent : Option (List Nat) := none
  deriving Inhabited

/-- Appends digits to a significand while it stays below `2 ^ 64`; the second component counts
the digits left over. -/
def absorb (significand : Nat) : List Nat → Nat × Nat
  | [] => (significand, 0)
  | d :: rest =>
    if significand * 10 + d < UInt64.size then absorb (significand * 10 + d) rest
    else (significand, rest.length + 1)

/-- The power of ten nearest to `10 ^ k`, for `k` up to 308. -/
def powerOfTen (k : Nat) : Float := Float.ofScientific 1 false k

/-- Divides by powers of ten, at most `10 ^ 308` at a time. -/
def shrink (f : Float) : Nat → Nat → Float
  | 0, _ => f
  | steps + 1, k =>
    if k ≤ 308 then f / powerOfTen k
    else if f == 0.0 then f
    else shrink (f / powerOfTen 308) steps (k - 308)

/-- Scales by a power of ten; none when the result is infinite. -/
def scale (f : Float) (exponent : Int) : Option Float :=
  if exponent < 0 then some (shrink f 4 (-exponent).toNat)
  else if f == 0.0 then some f
  else if 308 < exponent then none
  else
    let g := f * powerOfTen exponent.toNat
    if g.isInf then none else some g

/-- The value of a written number; none when it lies beyond binary64. -/
def ofWritten (w : Written) : Option Number :=
  let signed (f : Float) : Number := .double (if w.negative then -f else f).toBits
  let (significand, dropped) := absorb 0 w.whole
  if w.fraction.isNone ∧ w.exponent.isNone ∧ dropped = 0 then
    if w.negative then
      if significand = 0 ∨ 9223372036854775808 < significand then
        some (signed (UInt64.ofNat significand).toFloat)
      else some (.whole (-significand))
    else some (.whole significand)
  else
    let digits := w.fraction.getD []
    let (significand, unread) := absorb significand digits
    let point : Int := (dropped : Int) - ((digits.length : Int) - unread)
    let power : Int := (absorbAll (w.exponent.getD []) : Int)
    let exponent := if w.exponentNegative then point - power else point + power
    (scale (UInt64.ofNat significand).toFloat exponent).map signed
where
  /-- The natural number with these digits. -/
  absorbAll (digits : List Nat) : Nat := digits.foldl (fun n d => 10 * n + d) 0

end Overworld.Json.Number
