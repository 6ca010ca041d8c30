import Overworld.Script.Token
import Overworld.Text.Blank

/-!
# Cutting scripts into tokens

Tokens are read from left to right, the longest symbol first. Blanks and comments
only separate tokens. A minus sign in front of a digit belongs to the number where a
value has to stand.
-/

namespace Overworld.Script

/-- Whether a symbol stands at the start of a text. -/
def Token.opens (cs : List Char) (symbol : String) : Bool :=
  symbol.toList.isPrefixOf cs &&
    (symbol != "!in" || !((cs.drop 3).head?.map insideName).getD false)

/-- The longest symbol that a text starts with. -/
def leadingSymbol? (cs : List Char) : Option String :=
  ((symbols ++ reservedSymbols).filter (Token.opens cs)).foldl
    (fun best symbol => match best with
      | some s => if s.length < symbol.length then some symbol else best
      | none => some symbol) none

/-- The characters behind a line comment, which a carriage return ends too. -/
def skipLine (place : Place) : List Char → Place × List Char
  | [] => (place, [])
  | '\r' :: '\n' :: rest => (place, '\n' :: rest)
  | '\r' :: rest => (place, '\n' :: rest)
  | '\n' :: rest => (place, '\n' :: rest)
  | c :: rest => skipLine (place.after c) rest

/-- The characters behind a block comment that is open `depth` times. Comments nest, and one that
is never closed ends with the script. -/
def skipBlock (place : Place) (depth : Nat) : List Char → Place × List Char
  | [] => (place, [])
  | '/' :: '*' :: rest => skipBlock (place.afterAll ['/', '*']) (depth + 1) rest
  | '*' :: '/' :: rest =>
    let place := place.afterAll ['*', '/']
    if depth ≤ 1 then (place, rest) else skipBlock place (depth - 1) rest
  | c :: rest => skipBlock (place.after c) depth rest

/-- The value of a hexadecimal digit. -/
def hexDigit? (c : Char) : Option Nat :=
  if c.isDigit then some (c.toNat - 48)
  else if 'a' ≤ c ∧ c ≤ 'f' then some (c.toNat - 87)
  else if 'A' ≤ c ∧ c ≤ 'F' then some (c.toNat - 55)
  else none

/-- The characters that a backslash changes. -/
def escapeOf? : Char → Option Char
  | '\\' => some '\\'
  | 't' => some '\t'
  | 'n' => some '\n'
  | 'r' => some '\r'
  | _ => none

/-- How many hexadecimal digits follow an escape with this letter. -/
def escapeDigits? : Char → Option Nat
  | 'x' => some 2
  | 'u' => some 4
  | 'U' => some 8
  | _ => none

/-- A string in the middle of reading. -/
structure TextReader where
  /-- The quotation mark that ends the string. -/
  mark : Char
  /-- Where the string begins. -/
  opened : Place
  /-- The characters of the string so far, last first. -/
  done : List Char := []
  /-- Blanks in columns left of this one are skipped, at the start of a line that goes on with a
  string behind a backslash. -/
  margin : Nat := 0

/-- The place before another one in the same line. -/
def Place.before (p : Place) : Place := { p with column := p.column - 1 }

/-- What reading a part of a token leads to: the part, the place behind it and what follows. -/
abbrev PartRead (α : Type) := Except (TokenFault × Place) (α × Place × List Char)

/-- Reads the digits of an escape. `seen` are the characters of the escape so far, last first. -/
def readEscape (seen : List Char) (code : Nat) (place : Place) :
    Nat → List Char → PartRead Char
  | 0, rest =>
    if code.isValidChar then .ok (Char.ofNat code, place, rest)
    else .error (.badEscape (String.ofList seen.reverse), place.before)
  | _ + 1, [] => .error (.badEscape (String.ofList seen.reverse), place.before)
  | left + 1, c :: rest =>
    match hexDigit? c with
    | some digit => readEscape (c :: seen) (16 * code + digit) (place.after c) left rest
    | none => .error (.badEscape (String.ofList (c :: seen).reverse), place)

/-- Reads a string behind its opening quotation mark. A doubled quotation mark stands for one.
`steps` bounds the number of characters. -/
def readText (t : TextReader) (place : Place) : Nat → List Char → PartRead String
  | 0, _ | _, [] => .error (.unterminated, t.opened)
  | steps + 1, c :: rest =>
    let push (d : Char) : TextReader := { t with done := d :: t.done }
    if c = t.mark then
      match rest with
      | d :: more =>
        if d = t.mark then
          readText { push c with margin := 0 } (place.afterAll [c, d]) steps more
        else .ok (String.ofList t.done.reverse, place.after c, rest)
      | [] => .ok (String.ofList t.done.reverse, place.after c, rest)
    else if c = '\\' then
      let goOn (more : List Char) : PartRead String :=
        if t.mark = '"' then
          readText { t with margin := t.opened.column + 1 } (place.after '\n') steps more
        else .error (.unterminated, t.opened)
      match rest with
      | [] => .error (.unterminated, t.opened)
      | '\n' :: more | '\r' :: '\n' :: more => goOn more
      | e :: more =>
        if e = t.mark then readText (push e) (place.afterAll [c, e]) steps more
        else
          match escapeOf? e, escapeDigits? e with
          | some d, _ => readText (push d) (place.afterAll [c, e]) steps more
          | none, some digits =>
            match readEscape [e, c] 0 (place.afterAll [c, e]) digits more with
            | .ok (d, place, more) => readText (push d) place steps more
            | .error fault => .error fault
          | none, none => .error (.badEscape (String.ofList [c, e]), place.after c)
    else if c = '\n' then .error (.unterminated, t.opened)
    else if c = '\r' ∧ rest.head? = some '\n' then readText t (place.after c) steps rest
    else if Text.isBlank c ∧ place.column < t.margin then readText t (place.after c) steps rest
    else readText { push c with margin := 0 } (place.after c) steps rest

/-- A number in the middle of reading. -/
structure Numeral where
  /-- The base that a letter behind a leading zero has set. -/
  base : Option Nat := none
  point : Bool := false
  exponent : Bool := false
  /-- The characters so far, last first, without underscores. -/
  done : List Char := []
  /-- How many characters of the script have been read. -/
  size : Nat := 0

/-- The number with another character at its end. -/
def Numeral.push (n : Numeral) (c : Char) : Numeral :=
  { n with done := c :: n.done, size := n.size + 1 }

/-- Whether a character is a digit of a number. -/
def Numeral.takes (n : Numeral) (c : Char) : Bool :=
  ((hexDigit? c).map fun d => decide (d < n.base.getD 10)).getD false

/-- The base that a letter behind a leading zero sets. -/
def baseOf? (c : Char) : Option Nat :=
  if c = 'x' ∨ c = 'X' then some 16
  else if c = 'o' ∨ c = 'O' then some 8
  else if c = 'b' ∨ c = 'B' then some 2
  else none

/-- Reads a number; underscores separate digits. A point belongs to the number unless a name,
another point or an underscore follows it. `steps` bounds the number of characters. -/
def readNumeral (n : Numeral) : Nat → List Char → Numeral × List Char
  | 0, cs => (n, cs)
  | _ + 1, [] => (n, [])
  | steps + 1, c :: rest =>
    if c = '_' then readNumeral { n with size := n.size + 1 } steps rest
    else if n.takes c then readNumeral (n.push c) steps rest
    else if c = '.' ∧ !n.point ∧ n.base.isNone then
      match rest with
      | [] => (n, c :: rest)
      | d :: _ =>
        if d.isDigit then readNumeral { n.push c with point := true } steps rest
        else if d = '_' ∨ d = '.' ∨ startsName d then (n, c :: rest)
        else readNumeral { n.push c with done := '0' :: c :: n.done } steps rest
    else if c = 'e' ∧ !n.exponent ∧ n.base.isNone then
      let scaled := { n.push c with point := true, exponent := true }
      match rest with
      | [] => (n, c :: rest)
      | d :: more =>
        if d.isDigit then readNumeral scaled steps rest
        else if d = '+' ∨ d = '-' then readNumeral (scaled.push d) steps more
        else (n, c :: rest)
    else
      match baseOf? c with
      | some base =>
        if n.done = ['0'] then
          readNumeral { n with base := some base, done := [], size := n.size + 1 } steps rest
        else (n, c :: rest)
      | none => (n, c :: rest)

/-- The natural number with these digits. -/
def natOfDigits (base : Nat) (digits : List Char) : Nat :=
  digits.foldl (fun n c => base * n + (hexDigit? c).getD 0) 0

/-- The binary64 value nearest to a decimal with a point and an exponent, if it is one. -/
def floatOf? (digits : List Char) : Option Float :=
  let significand := digits.takeWhile (· != 'e')
  let whole := significand.takeWhile (· != '.')
  let fraction := (significand.dropWhile (· != '.')).drop 1
  let power := (digits.dropWhile (· != 'e')).drop 1
  let powerDigits := power.filter Char.isDigit
  if digits.contains 'e' ∧ powerDigits.isEmpty then none
  else
    let power : Int := natOfDigits 10 powerDigits
    let scale := (if digits.contains '-' then -power else power) - fraction.length
    some (Float.ofScientific (natOfDigits 10 (whole ++ fraction)) (scale < 0) scale.natAbs)

/-- The token of a number. What is written as an integer but has more than 64 bits is binary64. -/
def Numeral.token (n : Numeral) (negative : Bool) : Token :=
  let digits := n.done.reverse
  let written := String.ofList (if negative then '-' :: digits else digits)
  match n.base with
  | some base =>
    let value := natOfDigits base digits
    if digits.isEmpty ∨ UInt64.size ≤ value then .fault (.badNumber written)
    else
      let value := if value < 9223372036854775808 then (value : Int) else value - UInt64.size
      .int (if negative then -value else value)
  | none =>
    let value : Int := natOfDigits 10 digits
    let value := if negative then -value else value
    if digits.all Char.isDigit ∧ fitsInt value then .int value
    else
      match floatOf? digits with
      | some f => .float (if negative then -f else f).toBits
      | none => .fault (.badNumber written)

/-- Whether a sign behind this token belongs to the value that follows. -/
def Token.beforeSign : Token → Bool
  | .mark s =>
    s ∈ [";", ":", ",", "??", "..", "..=", "\x7b", "(", "[", "+", "+=", "-", "-=", "*", "*=", "/",
      "/=", "%", "%=", "**", "**=", "<<", "<<=", ">>", ">>=", "=", "==", "!=", "<", ">", "!", "<=",
      ">=", "|", "&", "if", "while", "until", "in", "!in", "&&", "&=", "||", "|=", "^", "^=",
      "return", "throw", "?["]
  | _ => false

/-- The token of a character between single quotation marks. -/
def Token.ofQuoted (content : String) : Token :=
  match content.toList with
  | [c] => .char c
  | _ => .fault (.badCharacter content)

/-- Reads the token at the start of a text without blanks or comments there. `signed` says
whether a minus sign belongs to the number behind it; `steps` bounds the number of characters. -/
def readToken (signed : Bool) (place : Place) (steps : Nat) (c : Char) (rest : List Char) :
    PartRead Token :=
  let cs := c :: rest
  let quoted (build : String → Token) : PartRead Token :=
    (readText { mark := c, opened := place } (place.after c) steps rest).map
      fun (s, behind, rest) => (build s, behind, rest)
  let number (negative : Bool) (text : List Char) : PartRead Token :=
    let (n, behind) := readNumeral { size := if negative then 1 else 0 } steps text
    .ok (n.token negative, { place with column := place.column + n.size }, behind)
  if c = '"' then quoted .text
  else if c = '\'' then
    if rest.head? = some c then .error (.badCharacter "", place) else quoted Token.ofQuoted
  else if startsName c ∨ c = '_' then
    let word := cs.takeWhile insideName
    .ok (Token.ofWord (String.ofList word), place.afterAll word, cs.dropWhile insideName)
  else if c.isDigit then number false cs
  else if c = '-' ∧ signed ∧ (rest.head?.map Char.isDigit).getD false then number true rest
  else
    match leadingSymbol? cs with
    | some symbol =>
      .ok (Token.ofSymbol symbol, place.afterAll symbol.toList, cs.drop symbol.length)
    | none => .error (.unexpected c.toString, place)

/-- Reads tokens. `steps` bounds their number, and `signed` says whether a sign belongs to the
value behind it. -/
def scan (place : Place) (signed : Bool) : Nat → List Char → List Located
  | 0, _ | _, [] => [{ token := .finish, place }]
  | steps + 1, c :: rest =>
    if Text.isBlank c then scan (place.after c) signed steps rest
    else if ['/', '/'].isPrefixOf (c :: rest) then
      let (place, rest) := skipLine place (c :: rest)
      scan place signed steps rest
    else if ['/', '*'].isPrefixOf (c :: rest) then
      let (place, rest) := skipBlock place 0 (c :: rest)
      scan place signed steps rest
    else
      match readToken signed place (steps + 1) c rest with
      | .ok (token, behind, rest) =>
        { token, place } :: scan behind token.beforeSign steps rest
      | .error (fault, place) => [{ token := .fault fault, place }]

/-- The tokens of a script. The last one is `finish` or a fault. -/
def tokens (source : String) : List Located :=
  let cs := source.toList
  scan {} true (cs.length + 1) cs

end Overworld.Script
