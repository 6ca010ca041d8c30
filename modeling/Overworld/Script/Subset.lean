import Overworld.Script.Scan

/-!
# The covered part of the script language

Not everything that the script language has is read here: there are no arrays, maps, constants,
modules, methods, closures, binary64 numbers or characters, no loops that run before they ask, no
guards in choices, and no functions but those of the script and of its host. A script that does
without them is covered, whether or not it can be read. Of the others nothing is claimed.
-/

namespace Overworld.Script

/-- The keywords and symbols of the covered part. -/
def coveredMarks : List String :=
  ["_", "true", "false", "let", "if", "else", "switch", "while", "loop", "for", "in", "fn",
   "return", "throw", "try", "catch", "break", "continue", "=", "+=", "-=", "*=", "/=", "%=", "==",
   "!=", "<", "<=", ">", ">=", "&&", "||", "!", "+", "-", "*", "/", "%", "..", "=>", "(", ")", "()",
   "\x7b", "\x7d", ",", ";"]

namespace Token

/-- Whether a token belongs to the covered part. Faulty tokens do and so do words and symbols that
are kept for later, since a script with them is refused; but a grave accent opens a text, and a hash
may do so. -/
def isCovered : Token → Bool
  | int _ | text _ | name _ | finish => true
  | mark symbol => symbol ∈ coveredMarks
  | reserved word => word ∉ ["this", "#"]
  | fault cause => cause != .unexpected "`"
  | float _ | char _ => false

/-- Whether a value may end with a token. -/
def endsValue : Token → Bool
  | int _ | text _ | name _ => true
  | mark symbol => symbol ∈ ["true", "false", ")", "()", "\x7d"]
  | _ => false

/-- Whether a token may stand behind another one, if these functions may be called. Bars without a
value in front of them begin a closure, and a condition behind a label is a guard. -/
def mayFollow (functions : List String) : Token → Token → Bool
  | name function, mark "(" | name function, mark "()" => function ∈ functions
  | reserved _, mark "(" | reserved _, mark "()" => false
  | name _, mark "!" | reserved _, mark "!" => false
  | before, mark "||" => before.endsValue
  | before, mark "if" => before = mark "\x7d" || !(before.endsValue || before = mark "_")
  | _, _ => true

/-- Whether `in` stands only behind the variable of a loop. -/
def walksOnly : List Token → Bool
  | mark "for" :: name _ :: mark "in" :: rest => walksOnly rest
  | mark "in" :: _ => false
  | _ :: rest => walksOnly rest
  | [] => true

/-- The functions that are defined in a row of tokens. -/
def definedFunctions : List Token → List String
  | mark "fn" :: name function :: rest => function :: definedFunctions rest
  | _ :: rest => definedFunctions rest
  | [] => []

end Token

/-- Whether a script is in the covered part of the language, with these functions of its host. -/
def isCovered (functions : List String) (source : String) : Bool :=
  let row := (tokens source).map (·.token)
  let callable := functions ++ Token.definedFunctions row
  row.all Token.isCovered && Token.walksOnly row &&
    (row.zip row.tail).all fun (before, behind) => before.mayFollow callable behind

end Overworld.Script
