import Overworld.Json.Token

/-!
# Drafting a text

The tokens of a text are put together by a machine that holds the containers
still open, innermost first. A fault closes them all: whatever stands behind it
is not part of the draft.
-/

namespace Overworld.Json

/-- The draft of a text, and whether something follows its value. -/
structure Document where
  root : Draft
  trailing : Bool
  deriving Inhabited

namespace Document

/-- A container in the middle of reading, with its parts so far, last first. -/
inductive Open where
  | arr (deep : Bool) (items : List Draft)
  | obj (deep : Bool) (fields : List (Draft × Draft)) (key : Draft)

/-- What the next token may be. -/
inductive Expected where
  | value
  | firstItem
  | firstKey
  | key
  | colon
  | separator
  deriving DecidableEq

/-- Containers at this nesting and beyond cannot be kept. -/
def depthLimit : Nat := 128

/-- Whether a container opened inside these is too deep. No more of them are looked at than it
takes to tell. -/
def tooDeep (stack : List Open) : Bool := !(stack.drop (depthLimit - 2)).isEmpty

/-- The container with one more part. -/
def Open.add (part : Draft) : Open → Open
  | .arr deep items => .arr deep (part :: items)
  | .obj deep fields key => .obj deep ((key, part) :: fields) .null

/-- The container as it stands. -/
def Open.close (ending : Ending) : Open → Draft
  | .arr deep items => .arr deep items.reverse ending
  | .obj deep fields _ => .obj deep fields.reverse ending

/-- The draft of a text that breaks off behind this part. -/
def abandon (part : Draft) (stack : List Open) : Document :=
  { root := stack.foldl (fun inner o => (o.add inner).close (.stopped .malformed)) part
    trailing := false }

/-- The draft of a text that breaks off at the end of the innermost container. -/
def breakOff (defect : Defect) : List Open → Document
  | [] => abandon (.broken defect defect) []
  | top :: below => abandon (top.close (.stopped defect)) below

/-- Notes the key of the field that follows. -/
def setKey (key : Draft) : List Open → List Open
  | .obj deep fields _ :: below => .obj deep fields key :: below
  | stack => stack

/-- The fault that a token is where a value should start. -/
def Token.asFault : Token → Draft
  | .cut passed => .cut passed
  | .fault _ kept passed => .broken kept passed
  | _ => .broken .malformed .malformed

/-- The draft of a key that is no string. -/
def Token.asKey : Token → Draft
  | .leaf draft => draft
  | .openArray => .arr false [] .closed
  | .openObject => .obj false [] .closed
  | .fault true kept passed => .broken kept passed
  | _ => .broken .malformed .malformed

/-- Puts the tokens together. -/
def build : Expected → List Open → List Token → Document
  | .separator, [], rest => { root := .null, trailing := !rest.isEmpty }
  | .separator, stack, [] => breakOff .truncated stack
  | .colon, stack, [] => abandon (.broken .truncated .truncated) stack
  | .key, stack, [] | .firstKey, stack, [] =>
    abandon .null (setKey (.broken .truncated .truncated) stack)
  | .value, stack, [] | .firstItem, stack, [] => abandon (.broken .truncated .truncated) stack
  | .separator, top :: below, token :: rest =>
    match top, token with
    | .arr _ _, .comma => build .value (top :: below) rest
    | .obj _ _ _, .comma => build .key (top :: below) rest
    | .arr _ _, .closeArray => complete (top.close .closed) below rest
    | .obj _ _ _, .closeObject => complete (top.close .closed) below rest
    | _, _ => breakOff .malformed (top :: below)
  | .colon, stack, token :: rest =>
    match token with
    | .colon => build .value stack rest
    | _ => abandon (.broken .malformed .malformed) stack
  | .firstKey, top :: below, .closeObject :: rest => complete (top.close .closed) below rest
  | .firstKey, stack, token :: rest | .key, stack, token :: rest =>
    match token with
    | .leaf (.str kept) => build .colon (setKey (.str kept) stack) rest
    | _ => abandon (.broken .malformed .malformed) (setKey (Token.asKey token) stack)
  | .firstItem, top :: below, .closeArray :: rest => complete (top.close .closed) below rest
  | .firstItem, stack, token :: rest | .value, stack, token :: rest =>
    match token with
    | .openArray => build .firstItem (.arr (tooDeep stack) [] :: stack) rest
    | .openObject => build .firstKey (.obj (tooDeep stack) [] .null :: stack) rest
    | .leaf draft => complete draft stack rest
    | _ => abandon (Token.asFault token) stack
where
  /-- Goes on behind a complete value. -/
  complete (part : Draft) : List Open → List Token → Document
    | [], rest => { root := part, trailing := !rest.isEmpty }
    | top :: below, rest => build .separator (top.add part :: below) rest

end Document

/-- The draft of a text. -/
def Document.ofBytes (text : List UInt8) : Document :=
  Document.build .value [] (Token.ofBytes text)

end Overworld.Json
