import Overworld.Json.Draft
import Overworld.Json.Number

/-!
# Tokens of a JSON text

The bytes of a text are read one at a time by a machine whose state says inside
which token it stands. The first byte that cannot go on makes a faulty token,
and nothing is read after it.
-/

namespace Overworld.Json

/-- A token. A `leaf` is a value without parts. `cut` and `fault` are the last token of a faulty
text: a number or word that is cut short, or any other fault, which may be inside a string. -/
inductive Token where
  | openArray
  | closeArray
  | openObject
  | closeObject
  | colon
  | comma
  | leaf (draft : Draft)
  | cut (passed : Defect)
  | fault (inText : Bool) (kept passed : Defect)
  deriving Inhabited

namespace Token

/-- The bytes of a string read so far, last first, or why it cannot be kept; and the first half of
a pair of escapes whose second half has to follow. -/
structure Text where
  kept : Except Defect (List UInt8) := .ok []
  lead : Option Nat := none
  deriving Inhabited

/-- Marks a string as one that cannot be kept, unless it is marked already. -/
def Text.spoil (t : Text) (defect : Defect) : Text :=
  { kept := t.kept.bind fun _ => .error defect, lead := none }

/-- Appends a part that is no second half. -/
def Text.append (t : Text) (bytes : List UInt8) : Text :=
  match t.lead with
  | some _ => t.spoil .malformed
  | none => { t with kept := t.kept.map (bytes.reverse ++ ·) }

/-- The bytes of a character in UTF-8. -/
def utf8 (code : Nat) : List UInt8 := (String.singleton (Char.ofNat code)).toUTF8.toList

/-- Appends an escaped UTF-16 unit. Halves of a pair have to follow each other. -/
def Text.appendUnit (t : Text) (unit : Nat) : Text :=
  if 0xDC00 ≤ unit ∧ unit < 0xE000 then
    match t.lead with
    | some lead =>
      { t with lead := none }.append (utf8 (0x10000 + (lead - 0xD800) * 0x400 + (unit - 0xDC00)))
    | none => t.spoil .malformed
  else if 0xD800 ≤ unit ∧ unit < 0xDC00 then
    match t.lead with
    | some _ => t.spoil .malformed
    | none => { t with lead := some unit }
  else t.append (utf8 unit)

/-- The string read, which has to be UTF-8. -/
def Text.finish (t : Text) : Except Defect String := do
  let t := if t.lead.isSome then t.spoil .malformed else t
  let bytes ← t.kept
  match String.fromUTF8? ⟨bytes.reverse.toArray⟩ with
  | some s => .ok s
  | none => .error .malformed

/-- The defect of a string in which a fault stands: an earlier one if there is one. -/
def Text.fault (t : Text) (defect : Defect) : Token :=
  match t.kept with
  | .error earlier => .fault true earlier defect
  | .ok _ => .fault true defect defect

/-- Where in a number the reader stands. -/
inductive Digits where
  | sign
  | zero
  | whole
  | point
  | fraction
  | letter
  | exponentSign
  | exponent
  deriving DecidableEq

/-- The state of the reader between two bytes. -/
inductive Mode where
  /-- Between tokens. -/
  | gap
  /-- Inside a string. -/
  | text (t : Text)
  /-- Behind a backslash. -/
  | escape (t : Text)
  /-- Inside an escaped unit, with the bytes of it read so far, last first. -/
  | unit (t : Text) (taken : List UInt8)
  /-- Inside a number, with the parts of it read so far, last digits first. -/
  | number (stage : Digits) (w : Number.Written)
  /-- Inside a word, with the bytes still to come. -/
  | word (rest : List UInt8) (draft : Draft)
  /-- Behind a fault. -/
  | halted

/-- The value of a hexadecimal digit. -/
def hexValue? (b : UInt8) : Option Nat :=
  let n := b.toNat
  if 48 ≤ n ∧ n ≤ 57 then some (n - 48)
  else if 97 ≤ n ∧ n ≤ 102 then some (n - 87)
  else if 65 ≤ n ∧ n ≤ 70 then some (n - 55)
  else none

/-- The number written by hexadecimal digits. -/
def hexUnit? (digits : List UInt8) : Option Nat :=
  digits.foldl (fun acc b => do return 16 * (← acc) + (← hexValue? b)) (some 0)

/-- The character behind a backslash that stands for one byte. -/
def escaped? (b : UInt8) : Option UInt8 :=
  match Char.ofNat b.toNat with
  | '"' => some 34
  | '\\' => some 92
  | '/' => some 47
  | 'b' => some 8
  | 'f' => some 12
  | 'n' => some 10
  | 'r' => some 13
  | 't' => some 9
  | _ => none

/-- The token of a finished number. -/
def ofNumber (w : Number.Written) : Token :=
  let flip (digits : Option (List Nat)) := digits.map List.reverse
  let w := { w with
    whole := w.whole.reverse, fraction := flip w.fraction, exponent := flip w.exponent }
  match Number.ofWritten w with
  | some n => .leaf (.num (.ok n))
  | none => .leaf (.num (.error .malformed))

/-- The value of a decimal digit. -/
def digit? (b : UInt8) : Option Nat :=
  if 48 ≤ b.toNat ∧ b.toNat ≤ 57 then some (b.toNat - 48) else none

/-- Whether the number may end where the reader stands. -/
def Digits.mayEnd : Digits → Bool
  | .zero | .whole | .fraction | .exponent => true
  | _ => false

/-- Reads one more byte of a number; none when the byte does not belong to it. -/
def Digits.next? (d : Digits) (w : Number.Written) (b : UInt8) :
    Option (Digits × Number.Written) :=
  let c := Char.ofNat b.toNat
  match d, digit? b with
  | .sign, some n => some (if n = 0 then .zero else .whole, { w with whole := [n] })
  | .whole, some n => some (.whole, { w with whole := n :: w.whole })
  | .point, some n | .fraction, some n =>
    some (.fraction, { w with fraction := some (n :: w.fraction.getD []) })
  | .letter, some n | .exponentSign, some n | .exponent, some n =>
    some (.exponent, { w with exponent := some (n :: w.exponent.getD []) })
  | .zero, none | .whole, none | .fraction, none =>
    if c = '.' ∧ d ≠ .fraction then some (.point, w)
    else if c = 'e' ∨ c = 'E' then some (.letter, w)
    else none
  | .letter, none =>
    if c = '+' then some (.exponentSign, w)
    else if c = '-' then some (.exponentSign, { w with exponentNegative := true })
    else none
  | _, _ => none

/-- Reads a byte between tokens. -/
def start (b : UInt8) : List Token × Mode :=
  match Char.ofNat b.toNat with
  | ' ' | '\n' | '\t' | '\r' => ([], .gap)
  | '[' => ([.openArray], .gap)
  | ']' => ([.closeArray], .gap)
  | '{' => ([.openObject], .gap)
  | '}' => ([.closeObject], .gap)
  | ':' => ([.colon], .gap)
  | ',' => ([.comma], .gap)
  | '"' => ([], .text {})
  | 'n' => ([], .word "ull".toUTF8.toList .null)
  | 't' => ([], .word "rue".toUTF8.toList (.bool true))
  | 'f' => ([], .word "alse".toUTF8.toList (.bool false))
  | '-' => ([], .number .sign { negative := true })
  | _ =>
    match Digits.sign.next? {} b with
    | some (d, w) => ([], .number d w)
    | none => ([.fault false .malformed .malformed], .halted)

/-- Reads a byte. -/
def step : Mode → UInt8 → List Token × Mode
  | .gap, b => start b
  | .text t, b =>
    if b = 34 then ([.leaf (.str t.finish)], .gap)
    else if b = 92 then ([], .escape t)
    else if b < 32 then ([t.fault .malformed], .halted)
    else ([], .text (t.append [b]))
  | .escape t, b =>
    if b = 117 then ([], .unit t [])
    else
      match escaped? b with
      | some byte => ([], .text (t.append [byte]))
      | none => ([t.fault .malformed], .halted)
  | .unit t taken, b =>
    if taken.length < 3 then ([], .unit t (b :: taken))
    else
      match hexUnit? (b :: taken).reverse with
      | some unit => ([], .text (t.appendUnit unit))
      | none => ([t.fault .malformed], .halted)
  | .number d w, b =>
    match d.next? w b with
    | some (d, w) => ([], .number d w)
    | none =>
      if d.mayEnd ∧ ¬ (d = .zero ∧ (digit? b).isSome) then
        let (tokens, mode) := start b
        (ofNumber w :: tokens, mode)
      else ([.fault false .malformed .malformed], .halted)
  | .word rest draft, b =>
    match rest with
    | [] => ([.fault false .malformed .malformed], .halted)
    | [last] =>
      if b = last then ([.leaf draft], .gap)
      else ([.fault false .malformed .malformed], .halted)
    | expected :: more =>
      if b = expected then ([], .word more draft)
      else ([.fault false .malformed .malformed], .halted)
  | .halted, _ => ([], .halted)

/-- What the end of the text makes of an unfinished token. A number that is cut short is cut for a
reader who keeps it and malformed for one who passes over it. -/
def finish : Mode → List Token
  | .gap | .halted => []
  | .text t | .escape t | .unit t _ => [t.fault .truncated]
  | .number d w => if d.mayEnd then [ofNumber w] else [.cut .malformed]
  | .word _ _ => [.cut .truncated]

/-- The tokens of a text. -/
def scan (mode : Mode) : List UInt8 → List Token
  | [] => finish mode
  | b :: rest =>
    let (tokens, mode) := step mode b
    tokens ++ scan mode rest

/-- The tokens of a text. -/
def ofBytes (text : List UInt8) : List Token := scan .gap text

end Token

end Overworld.Json
