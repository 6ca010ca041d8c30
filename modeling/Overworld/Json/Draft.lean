import Overworld.Json.Value

/-!
# Drafts of JSON values

A draft is what a text shows before anyone has said which parts of it are kept.
Faults are leaves of the draft, at the place where they stand in the text, so
that a reader of the draft meets the first of them in reading order. A part that
nobody keeps is only passed over, and then fewer things are faults.
-/

namespace Overworld.Json

/-- Why a text is refused: it breaks the grammar, it holds another shape than the one asked for,
or it ends early. -/
inductive Defect where
  | malformed
  | mismatched
  | truncated
  deriving DecidableEq, Inhabited, Repr

/-- The name of a defect. -/
def Defect.label : Defect → String
  | .malformed => "syntax"
  | .mismatched => "data"
  | .truncated => "eof"

/-- Where an array or object stops: at its closing bracket, or at a fault. -/
inductive Ending where
  | closed
  | stopped (defect : Defect)
  deriving DecidableEq, Inhabited

/-- The fault at the end of a container, if there is one. -/
def Ending.check : Ending → Except Defect Unit
  | .closed => .ok ()
  | .stopped defect => .error defect

/-- A JSON text as read. Numbers and strings may be in order for a reader who passes over them
and faulty for one who keeps them; `deep` marks a container that is nested too deep to be kept. A
`cut` is a number or a word that the end of the text cuts short. -/
inductive Draft where
  | null
  | bool (value : Bool)
  | num (kept : Except Defect Number)
  | str (kept : Except Defect String)
  | arr (deep : Bool) (items : List Draft) (ending : Ending)
  | obj (deep : Bool) (fields : List (Draft × Draft)) (ending : Ending)
  | cut (passed : Defect)
  | broken (kept passed : Defect)
  deriving Inhabited

namespace Draft

/-- The draft of a value that is already kept. -/
def ofJson : Json → Draft
  | .null => .null
  | .bool b => .bool b
  | .num n => .num (.ok n)
  | .str s => .str (.ok s)
  | .arr items => .arr false (ofItems items) .closed
  | .obj fields => .obj false (ofFields fields) .closed
where
  /-- The drafts of a list of values. -/
  ofItems : List Json → List Draft
    | [] => []
    | item :: rest => ofJson item :: ofItems rest
  /-- The drafts of a list of fields. -/
  ofFields : List (String × Json) → List (Draft × Draft)
    | [] => []
    | (key, value) :: rest => (.str (.ok key), ofJson value) :: ofFields rest

/-- Passes over a value that nobody keeps. -/
def pass : Draft → Except Defect Unit
  | .cut passed | .broken _ passed => .error passed
  | .arr _ items ending => do
    passItems items
    ending.check
  | .obj _ fields ending => do
    passFields fields
    ending.check
  | _ => .ok ()
where
  /-- Passes over the items of an array. -/
  passItems : List Draft → Except Defect Unit
    | [] => .ok ()
    | item :: rest => do
      pass item
      passItems rest
  /-- Passes over the fields of an object, whose keys have to be strings. -/
  passFields : List (Draft × Draft) → Except Defect Unit
    | [] => .ok ()
    | (key, value) :: rest => do
      match key with
      | .str _ => .ok ()
      | .broken _ passed => .error passed
      | _ => .error .malformed
      pass value
      passFields rest

/-- The key of a field. -/
def key : Draft → Except Defect String
  | .str kept => kept
  | .broken kept _ => .error kept
  | _ => .error .malformed

/-- Keeps a value as it stands. Of fields with the same key the last counts. -/
def keep : Draft → Except Defect Json
  | .null => .ok .null
  | .bool b => .ok (.bool b)
  | .num kept => kept.map .num
  | .str kept => kept.map .str
  | .arr deep items ending =>
    if deep then .error .malformed
    else do
      let items ← keepItems items
      ending.check
      .ok (.arr items)
  | .obj deep fields ending =>
    if deep then .error .malformed
    else do
      let fields ← keepFields [] fields
      ending.check
      .ok (.obj fields)
  | .cut _ => .error .truncated
  | .broken kept _ => .error kept
where
  /-- Keeps the items of an array. -/
  keepItems : List Draft → Except Defect (List Json)
    | [] => .ok []
    | item :: rest => do
      let item ← keep item
      let rest ← keepItems rest
      .ok (item :: rest)
  /-- Keeps the fields of an object, on top of those already kept. -/
  keepFields (kept : List (String × Json)) :
      List (Draft × Draft) → Except Defect (List (String × Json))
    | [] => .ok kept
    | (name, value) :: rest => do
      let name ← name.key
      let value ← keep value
      keepFields (insertField name value kept) rest

end Draft

end Overworld.Json
