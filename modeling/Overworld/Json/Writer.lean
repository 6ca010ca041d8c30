import Overworld.Json.Value
import Overworld.Decimal

/-!
# Writing JSON

A value is written either without any blanks or with each item on a line of its
own, two blanks deeper than its container. Fields are written in the order in
which they stand.
-/

namespace Overworld.Json

/-- A hexadecimal digit in lower case. -/
def hexDigit (n : Nat) : Char := (Nat.digitChar (n % 16)).toLower

/-- The characters that stand for one character of a string. -/
def escape (c : Char) : List Char :=
  match c with
  | '"' => ['\\', '"']
  | '\\' => ['\\', '\\']
  | '\n' => ['\\', 'n']
  | '\r' => ['\\', 'r']
  | '\t' => ['\\', 't']
  | _ =>
    if c.toNat = 8 then ['\\', 'b']
    else if c.toNat = 12 then ['\\', 'f']
    else if c.toNat < 32 then ['\\', 'u', '0', '0', hexDigit (c.toNat / 16), hexDigit c.toNat]
    else [c]

/-- A string between quotation marks. -/
def quote (s : String) : String :=
  "\"" ++ String.ofList (s.toList.flatMap escape) ++ "\""

/-- A number as text. -/
def Number.text : Number → String
  | .whole n => toString n
  | .double bits => Decimal.text bits

/-- A value without blanks. -/
def compact : Json → String
  | .null => "null"
  | .bool b => if b then "true" else "false"
  | .num n => n.text
  | .str s => quote s
  | .arr items => "[" ++ String.intercalate "," (compactItems items) ++ "]"
  | .obj fields => "\x7b" ++ String.intercalate "," (compactFields fields) ++ "\x7d"
where
  /-- Items without blanks. -/
  compactItems : List Json → List String
    | [] => []
    | item :: rest => compact item :: compactItems rest
  /-- Fields without blanks. -/
  compactFields : List (String × Json) → List String
    | [] => []
    | (key, item) :: rest => (quote key ++ ":" ++ compact item) :: compactFields rest

/-- Lines between brackets, or the empty brackets on one line. -/
def bracketed (opening closing : String) (depth : Nat) (lines : List String) : String :=
  let indent (n : Nat) := String.ofList (List.replicate (2 * n) ' ')
  if lines.isEmpty then opening ++ closing
  else
    opening ++ "\n" ++ String.intercalate ",\n" (lines.map (indent (depth + 1) ++ ·)) ++ "\n" ++
      indent depth ++ closing

/-- A value with each item on a line of its own, at a nesting depth. -/
def pretty (depth : Nat) : Json → String
  | .arr items => bracketed "[" "]" depth (prettyItems (depth + 1) items)
  | .obj fields => bracketed "\x7b" "\x7d" depth (prettyFields (depth + 1) fields)
  | other => compact other
where
  /-- Items, each as lines. -/
  prettyItems (depth : Nat) : List Json → List String
    | [] => []
    | item :: rest => pretty depth item :: prettyItems depth rest
  /-- Fields, each as lines. -/
  prettyFields (depth : Nat) : List (String × Json) → List String
    | [] => []
    | (key, item) :: rest => (quote key ++ ": " ++ pretty depth item) :: prettyFields depth rest

end Overworld.Json
