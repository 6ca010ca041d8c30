import Overworld.Json.Document

/-!
# Reading drafts as typed values

A shape reads a draft as a value of one type. It meets the faults of the draft in
reading order. A record may be written as an object or as an array of its fields
in their declared order; unknown fields are passed over and a repeated one is
refused.
-/

namespace Overworld.Json

/-- A reader of drafts. -/
abbrev Shape (α : Type) := Draft → Except Defect α

namespace Shape

/-- The defect of a draft that has another shape than the one asked for. A scalar is still read
to its end. -/
def mismatch : Draft → Defect
  | .num (.error defect) | .str (.error defect) => defect
  | .cut _ => .truncated
  | .broken kept _ => kept
  | _ => .mismatched

/-- Whole numbers between two bounds. -/
def whole (low high : Int) : Shape Int
  | .num (.ok (.whole n)) => if low ≤ n ∧ n ≤ high then .ok n else .error .mismatched
  | draft => .error (mismatch draft)

/-- Bytes. -/
def uint8 : Shape UInt8 := fun d => (whole 0 255 d).map fun n => UInt8.ofNat n.toNat

/-- Whole numbers of 16 bits. -/
def uint16 : Shape UInt16 := fun d => (whole 0 65535 d).map fun n => UInt16.ofNat n.toNat

/-- Whole numbers of 32 bits. -/
def uint32 : Shape UInt32 := fun d => (whole 0 4294967295 d).map fun n => UInt32.ofNat n.toNat

/-- Whole numbers of 32 bits with a sign. -/
def int32 : Shape Int32 := fun d => (whole (-2147483648) 2147483647 d).map Int32.ofInt

/-- Natural numbers below a bound. -/
def natBelow (bound : Nat) : Shape Nat := fun d => (whole 0 (bound - 1) d).map Int.toNat

/-- Truth values. -/
def bool : Shape Bool
  | .bool b => .ok b
  | draft => .error (mismatch draft)

/-- Texts. -/
def text : Shape String
  | .str (.ok s) => .ok s
  | draft => .error (mismatch draft)

/-- Any value. -/
def value : Shape Json := Draft.keep

/-- A value or null. -/
def optional {α : Type} (shape : Shape α) : Shape (Option α)
  | .null => .ok none
  | draft => (shape draft).map some

/-- The values of these drafts. -/
def items {α : Type} (shape : Shape α) : List Draft → Except Defect (List α)
  | [] => .ok []
  | item :: rest => do
    let a ← shape item
    let rest ← items shape rest
    .ok (a :: rest)

/-- Arrays of values of one shape. -/
def list {α : Type} (shape : Shape α) : Shape (List α)
  | .arr _ parts ending => do
    let values ← items shape parts
    ending.check
    .ok values
  | draft => .error (mismatch draft)

/-- A field of a record: its name, whether it has to be there, and how it is put in. -/
structure Field (α : Type) where
  name : String
  required : Bool := false
  put : Draft → α → Except Defect α

/-- A field that a shape reads. -/
def Field.of {α β : Type} (name : String) (required : Bool) (shape : Shape β)
    (set : α → β → α) : Field α :=
  { name, required, put := fun draft a => (shape draft).map (set a) }

/-- Reads the fields of an object. `seen` are the names of the fields read before. -/
def fieldsByName {α : Type} (fields : List (Field α)) (a : α) (seen : List String) :
    List (Draft × Draft) → Except Defect (α × List String)
  | [] => .ok (a, seen)
  | (key, part) :: rest => do
    let name ← key.key
    match fields.find? (·.name = name) with
    | none =>
      part.pass
      fieldsByName fields a seen rest
    | some field =>
      if name ∈ seen then .error .mismatched
      else do
        let a ← field.put part a
        fieldsByName fields a (name :: seen) rest

/-- Reads the fields of a record written as an array. -/
def fieldsByPlace {α : Type} (a : α) (ending : Ending) :
    List (Field α) → List Draft → Except Defect α
  | [], [] => do
    ending.check
    .ok a
  | [], _ :: _ => .error .malformed
  | field :: fields, [] => do
    ending.check
    if field.required then .error .mismatched else fieldsByPlace a ending fields []
  | field :: fields, part :: parts => do
    let a ← field.put part a
    fieldsByPlace a ending fields parts

/-- Records with these fields; `blank` holds the values of absent ones. -/
def record {α : Type} (blank : α) (fields : List (Field α)) : Shape α
  | .obj _ parts ending => do
    let (a, seen) ← fieldsByName fields blank [] parts
    ending.check
    if fields.all fun field => !field.required || seen.contains field.name then .ok a
    else .error .mismatched
  | .arr _ parts ending => fieldsByPlace blank ending fields parts
  | draft => .error (mismatch draft)

/-- Objects read as tables from keys to values; of repeated keys the last counts. -/
def table {α : Type} (shape : Shape α) : Shape (List (String × α))
  | .obj _ parts ending => do
    let entries ← go [] parts
    ending.check
    .ok entries
  | draft => .error (mismatch draft)
where
  /-- Adds the entries of an object to those read before. -/
  go (entries : List (String × α)) : List (Draft × Draft) → Except Defect (List (String × α))
    | [] => .ok entries
    | (key, part) :: rest => do
      let name ← key.key
      let a ← shape part
      go (entries.filter (·.1 ≠ name) ++ [(name, a)]) rest

/-- Names of a closed choice, written as a string or as an object from the name to null. Anything
else is refused at its first byte. -/
def choice {α : Type} (names : List (String × α)) : Shape α
  | .str kept => do
    let name ← kept
    find name
  | .obj _ [] .closed => .error .malformed
  | .obj _ [] (.stopped defect) => .error defect
  | .obj _ ((key, part) :: rest) ending => do
    let name ← key.key
    let a ← find name
    match part with
    | .null => if rest.isEmpty then ending.check else .error .malformed
    | other => .error (mismatch other)
    .ok a
  | .broken kept _ => .error kept
  | _ => .error .malformed
where
  /-- The meaning of a name. -/
  find (name : String) : Except Defect α :=
    match names.lookup name with
    | some a => .ok a
    | none => .error .mismatched

end Shape

/-- Reads a value that is already kept: all that can be wrong with it is its shape. -/
def decode {α : Type} (shape : Shape α) (value : Json) : Except Defect α :=
  (shape (.ofJson value)).mapError fun _ => .mismatched

/-- Reads a text that holds one value of this shape and nothing else. -/
def read {α : Type} (shape : Shape α) (text : List UInt8) : Except Defect α := do
  let document := Document.ofBytes text
  let a ← shape document.root
  if document.trailing then .error .malformed else .ok a

end Overworld.Json
