/-!
# Shortest decimals of binary64 values

A finite value is `m * 2 ^ q`. Every real between the midpoints to its two
neighbours reads back as that value, the midpoints included when `m` is even.
The shortest decimal is the multiple of the greatest power of ten in that
interval; of two multiples the nearer is taken, and of two equally near the even.
-/

namespace Overworld.Decimal

/-- A positive decimal `digits * 10 ^ exponent`. -/
structure Scaled where
  digits : Nat
  exponent : Int
  deriving DecidableEq, Inhabited

/-- The power of ten with an exponent, which counts as 0 when it is negative. -/
def tens (exponent : Int) : Nat := Nat.pow 10 exponent.toNat

/-- Compares `a * 2 ^ s` with `c * 10 ^ k` exactly. -/
def compareScaled (a : Nat) (s : Int) (c : Nat) (k : Int) : Ordering :=
  compare ((a * tens (-k)) <<< s.toNat) ((c * tens k) <<< (-s).toNat)

/-- A positive finite binary64 value and the interval of reals that read back as it, all three
as multiples of `2 ^ scale`. -/
structure Interval where
  low : Nat
  value : Nat
  high : Nat
  scale : Int
  closed : Bool

/-- The interval of the value with these exponent and fraction fields. -/
def Interval.ofFields (exponent fraction : Nat) : Interval :=
  let m := if exponent = 0 then fraction else fraction + (1 <<< 52)
  let q : Int := (if exponent = 0 then 1 else exponent) - 1075
  let low := if fraction = 0 ∧ 1 < exponent then 4 * m - 1 else 4 * m - 2
  { low, value := 4 * m, high := 4 * m + 2, scale := q - 2, closed := m % 2 = 0 }

/-- Whether `c * 10 ^ k` reads back as the value. -/
def Interval.holds (i : Interval) (c : Nat) (k : Int) : Bool :=
  let low := compareScaled i.low i.scale c k
  let high := compareScaled i.high i.scale c k
  if i.closed then low != .gt && high != .lt else low == .lt && high == .gt

/-- The multiple of `10 ^ k` just below the value, or the value itself. -/
def Interval.below (i : Interval) (k : Int) : Nat :=
  ((i.value * tens (-k)) <<< i.scale.toNat) / (tens k <<< (-i.scale).toNat)

/-- The nearest multiple of `10 ^ k` that reads back as the value. -/
def Interval.onGrid? (i : Interval) (k : Int) : Option Nat :=
  let c := i.below k
  match i.holds c k && c != 0, i.holds (c + 1) k with
  | false, false => none
  | true, false => some c
  | false, true => some (c + 1)
  | true, true =>
    match compareScaled (2 * i.value) i.scale (2 * c + 1) k with
    | .lt => some c
    | .gt => some (c + 1)
    | .eq => some (if c % 2 = 0 then c else c + 1)

/-- The first grid with a hit, among those of the next `tries` powers of ten from `k` down. -/
def Interval.search (i : Interval) : Nat → Int → Scaled
  | 0, k => ⟨i.below k, k⟩
  | tries + 1, k =>
    match i.onGrid? k with
    | some c => ⟨c, k⟩
    | none => i.search tries (k - 1)

/-- The shortest decimal that reads back as the value. -/
def Interval.shortest (i : Interval) : Scaled :=
  let whole := i.value <<< i.scale.toNat
  let part := 1 <<< (-i.scale).toNat
  let size (n : Nat) : Int := (Nat.toDigits 10 n).length
  i.search 22 (size whole - size part + 2)

/-- How far the point of a decimal stands to the right of its first digit. -/
def Scaled.point (d : Scaled) : Int := (Nat.toDigits 10 d.digits).length + d.exponent

/-- A decimal in full, without a point when it is whole. -/
def Scaled.positional (d : Scaled) : String :=
  let digits := Nat.toDigits 10 d.digits
  if 0 ≤ d.exponent then String.ofList (digits ++ List.replicate d.exponent.toNat '0')
  else if 0 < d.point then
    String.ofList (digits.take d.point.toNat) ++ "." ++ String.ofList (digits.drop d.point.toNat)
  else "0." ++ String.ofList (List.replicate (-d.point).toNat '0' ++ digits)

/-- The digits of a decimal with the point behind the first one. -/
def Scaled.mantissa (d : Scaled) : String :=
  match Nat.toDigits 10 d.digits with
  | [] => ""
  | [c] => c.toString
  | c :: rest => c.toString ++ "." ++ String.ofList rest

/-- An exponent with its sign and at least two digits. -/
def signedExponent (e : Int) : String :=
  let digits := toString e.natAbs
  (if e < 0 then "-" else "+") ++ (if digits.length < 2 then "0" else "") ++ digits

/-- Decimals are written positionally while the point stands from five places left of the first
digit to sixteen places right of it, and with an exponent otherwise. -/
def Scaled.text (d : Scaled) : String :=
  if -5 < d.point ∧ d.point ≤ 16 then d.positional ++ (if 0 ≤ d.exponent then ".0" else "")
  else d.mantissa ++ "e" ++ signedExponent (d.point - 1)

/-- The text of a finite binary64 value, given by its bits; `write` writes what is not zero. -/
def textWith (write : Scaled → String) (bits : UInt64) : String :=
  let n := bits.toNat
  let sign := if n >>> 63 = 1 then "-" else ""
  let exponent := (n >>> 52) % 2048
  let fraction := n % (1 <<< 52)
  if exponent = 0 ∧ fraction = 0 then sign ++ "0.0"
  else sign ++ write (Interval.ofFields exponent fraction).shortest

/-- The text of a finite binary64 value, given by its bits. -/
def text (bits : UInt64) : String := textWith Scaled.text bits

end Overworld.Decimal
