import Overworld.Json.Shape
import Overworld.Direction

/-!
# Instructions

An instruction of an event's list, as its data file has it, and the command that
it means. Every instruction means some command: codes and parameters without a
meaning are commands that do nothing.
-/

namespace Overworld

/-- An instruction as written: a code, the nesting of the line and the parameters. -/
structure Instruction where
  code : Int32
  indent : Int32 := 0
  parameters : List Json := []
  deriving Inhabited

/-- A place the player is sent to, and the direction to look at there. -/
structure TransferRequest where
  map : UInt32
  x : Int
  y : Int
  direction : Option Direction
  deriving DecidableEq, Inhabited

/-- What an instruction does. -/
inductive Command where
  /-- Ends the list, unless the line is nested. -/
  | finish (outermost : Bool)
  | comment
  /-- Holds the list for a number of ticks. -/
  | wait (ticks : Nat)
  /-- Leaves the list. -/
  | exit
  /-- Runs a common event; without an id there is none to run. -/
  | callCommon (id : Option UInt32)
  /-- Sets a self switch of the event on whose behalf the list runs. -/
  | setSelfSwitch (assignment : Option (String × Bool))
  /-- Sends the player somewhere; other ways of naming the place are not supported. -/
  | transfer (request : Option TransferRequest)
  /-- The first line of a script. -/
  | script (line : String)
  /-- A further line of a script. -/
  | scriptLine (line : String)
  | unsupported
  deriving DecidableEq, Inhabited

namespace Instruction

/-- Instructions in data files. A list of them may leave out nesting and parameters. -/
def shape : Json.Shape Instruction :=
  Json.Shape.record { code := 0 }
    [.of "code" true .int32 fun i v => { i with code := v },
     .of "indent" false .int32 fun i v => { i with indent := v },
     .of "parameters" false (.list .value) fun i v => { i with parameters := v }]

/-- The instruction as a JSON value. -/
def toJson (i : Instruction) : Json :=
  .obj [("code", .int i.code.toInt), ("indent", .int i.indent.toInt),
    ("parameters", .arr i.parameters)]

/-- A parameter that is a whole number of 64 bits. -/
def intParameter? (i : Instruction) (index : Nat) : Option Int :=
  i.parameters[index]?.bind Json.asInt64?

/-- A parameter that is a text. -/
def textParameter? (i : Instruction) (index : Nat) : Option String :=
  i.parameters[index]?.bind Json.asText?

/-- A number as an id; none when it is out of the range of ids. -/
def idOfInt? (n : Int) : Option UInt32 :=
  if 0 ≤ n ∧ n < 4294967296 then some (UInt32.ofNat n.toNat) else none

/-- The self switch that an instruction names and the value it gives it: 0 turns it on, and so
does no number; any other number turns it off. -/
def assignment? (i : Instruction) : Option (String × Bool) :=
  (i.textParameter? 0).map fun name => (name, (i.intParameter? 1).getD 0 = 0)

/-- The place that an instruction names directly; coordinates keep their lower 32 bits. -/
def transferRequest? (i : Instruction) : Option TransferRequest :=
  let coordinate (index : Nat) : Int := ((i.intParameter? index).getD 0).bmod 4294967296
  match (i.intParameter? 1).bind idOfInt? with
  | none => none
  | some map =>
    if (i.intParameter? 0).getD 0 ≠ 0 ∨ map = 0 then none
    else some
      { map, x := coordinate 2, y := coordinate 3
        direction := (i.intParameter? 4).bind Direction.ofCode? }

/-- The command that an instruction means. -/
def command (i : Instruction) : Command :=
  match i.code.toInt with
  | 0 => .finish (i.indent = 0)
  | 106 => .wait (min ((i.intParameter? 0).getD 0).toNat 4294967295)
  | 108 | 408 => .comment
  | 115 => .exit
  | 117 => .callCommon (idOfInt? ((i.intParameter? 0).getD 0))
  | 123 => .setSelfSwitch i.assignment?
  | 201 => .transfer i.transferRequest?
  | 355 => .script ((i.textParameter? 0).getD "")
  | 655 => .scriptLine ((i.textParameter? 0).getD "")
  | _ => .unsupported

/-- Whether an instruction only gives the list its form: an end or a comment. -/
def isStructural (i : Instruction) : Bool :=
  match i.command with
  | .finish _ | .comment => true
  | _ => false

end Instruction

end Overworld
