import Overworld.Decimal

/-!
# Tokens of the script language

A script is a row of tokens, each with the place where it starts. Words and symbols
have a meaning, or are kept for later, or are names. Where a script cannot be cut
into tokens, a faulty token says why, and nothing is read after it.
-/

namespace Overworld.Script

/-- A place in a script: line and column, both counted from one in characters. -/
structure Place where
  line : Nat := 1
  column : Nat := 1
  deriving DecidableEq, Inhabited, Repr

/-- The wording of a place. -/
def Place.text (p : Place) : String :=
  "line " ++ toString p.line ++ ", position " ++ toString p.column

/-- The place behind a character. -/
def Place.after (p : Place) (c : Char) : Place :=
  if c = '\n' then { line := p.line + 1, column := 1 } else { p with column := p.column + 1 }

/-- The place behind some characters. -/
def Place.afterAll (p : Place) (cs : List Char) : Place := cs.foldl Place.after p

/-- Why no token starts at a place. -/
inductive TokenFault where
  | unexpected (text : String)
  | unterminated
  | badEscape (text : String)
  | badNumber (text : String)
  | badCharacter (text : String)
  | badName (text : String)
  /-- A symbol that other languages have. -/
  | foreign (symbol : String)
  deriving DecidableEq, Inhabited, Repr

/-- What is said about the symbols of other languages. -/
def foreignSymbols : List (String × String) :=
  [("===", "'===' is not a valid operator. This is not JavaScript! Should it be '=='?"),
    ("!==", "'!==' is not a valid operator. This is not JavaScript! Should it be '!='?"),
    ("->", "'->' is not a valid symbol. This is not C or C++!"),
    ("<-", "'<-' is not a valid symbol. This is not Go! Should it be '<='?"),
    (":=",
      "':=' is not a valid assignment operator. This is not Go or Pascal! Should it be simply '='?"),
    (":;", "':;' is not a valid symbol. Should it be '::'?"),
    ("::<", "'::<>' is not a valid symbol. This is not Rust! Should it be '::'?"),
    ("(*", "'(* .. *)' is not a valid comment format. This is not Pascal! Should it be '/* .. */'?"),
    ("*)", "'(* .. *)' is not a valid comment format. This is not Pascal! Should it be '/* .. */'?"),
    ("# \x7b", "'#' is not a valid symbol. Should it be '#\x7b'?")]

/-- The wording of a faulty token. -/
def TokenFault.message : TokenFault → String
  | .unexpected text => "Unexpected '" ++ text ++ "'"
  | .unterminated => "Open string is not terminated"
  | .badEscape text => "Invalid escape sequence: '" ++ text ++ "'"
  | .badNumber text => "Invalid number: '" ++ text ++ "'"
  | .badCharacter text => "Invalid character: '" ++ text ++ "'"
  | .badName text => "Variable name is not proper: '" ++ text ++ "'"
  | .foreign symbol => (foreignSymbols.lookup symbol).getD symbol

/-- The least integer of 64 bits. -/
def leastInt : Int := -9223372036854775808

/-- The greatest integer of 64 bits. -/
def greatestInt : Int := 9223372036854775807

/-- Whether an integer has 64 bits. -/
def fitsInt (n : Int) : Bool := leastInt ≤ n && n ≤ greatestInt

/-- A token. A `mark` is a keyword or a symbol; a `reserved` word or symbol has no meaning yet. A
number that is no integer of 64 bits is binary64, given by its bits. -/
inductive Token where
  | int (value : Int)
  | float (bits : UInt64)
  | char (value : Char)
  | text (value : String)
  | name (value : String)
  | mark (value : String)
  | reserved (value : String)
  | fault (fault : TokenFault)
  | finish
  deriving DecidableEq, Inhabited, Repr

/-- A token as it stands in messages. -/
def Token.show : Token → String
  | .int n => toString n
  | .float bits => Decimal.text bits
  | .char c => c.toString
  | .text s => "\"" ++ s ++ "\""
  | .name s | .mark s | .reserved s => s
  | .fault f => f.message
  | .finish => "\x7bEOF\x7d"

/-- A token and the place where it starts. -/
structure Located where
  token : Token
  place : Place
  deriving DecidableEq, Inhabited, Repr

/-- The words with a meaning. -/
def keywords : List String :=
  ["_", "true", "false", "let", "const", "if", "else", "switch", "do", "while", "until", "loop",
   "for", "in", "fn", "private", "return", "throw", "try", "catch", "break", "continue", "import",
   "export", "as"]

/-- The words kept for later. -/
def reservedWords : List String :=
  ["var", "static", "shared", "goto", "match", "case", "public", "protected", "new", "use", "with",
   "is", "module", "package", "super", "thread", "spawn", "go", "await", "async", "sync", "yield",
   "default", "void", "null", "nil", "this"]

/-- The words kept for functions of the language itself, which only calls may name. -/
def callableWords : List String :=
  ["print", "debug", "type_of", "eval", "Fn", "call", "curry", "is_def_var", "is_def_fn",
   "is_shared"]

/-- The symbols with a meaning. -/
def symbols : List String :=
  ["**=", "..=", "<<=", ">>=", "!in", "()", "+=", "-=", "*=", "/=", "%=", "==", "!=", "<=", ">=",
   "&&", "||", "=>", "..", "::", "<<", ">>", "**", "??", "?.", "?[", "#\x7b", "&=", "|=", "^=",
   "+", "-", "*", "/", "%", "=", "<", ">", "!", "(", ")", "\x7b", "\x7d", "[", "]", ",", ";", ":",
   ".", "|", "&", "^"]

/-- The symbols kept for later. -/
def reservedSymbols : List String :=
  ["===", "!==", "::<", "...", "# \x7b", "->", "<-", ":=", ":;", "++", "--", "<|", "|>", "#!",
   "!.", "(*", "*)", "~", "?", "@", "$", "#"]

/-- Whether a name may start with a character, apart from underscores. Names are ASCII. -/
def startsName (c : Char) : Bool := c.isAlpha

/-- Whether a character may stand inside a name. -/
def insideName (c : Char) : Bool := c.isAlphanum || c == '_'

/-- Whether a word is a name: its first character that is no underscore is a letter. -/
def isName (word : String) : Bool :=
  ((word.toList.dropWhile (· == '_')).head?.map startsName).getD false

/-- The token of a word. -/
def Token.ofWord (word : String) : Token :=
  if word ∈ keywords then .mark word
  else if word ∈ reservedWords ++ callableWords then .reserved word
  else if isName word then .name word
  else .fault (.badName word)

/-- The token of a symbol. -/
def Token.ofSymbol (symbol : String) : Token :=
  if symbol ∈ symbols then .mark symbol
  else if (foreignSymbols.lookup symbol).isSome then .fault (.foreign symbol)
  else .reserved symbol

end Overworld.Script
