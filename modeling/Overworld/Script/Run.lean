import Overworld.Script.Grammar
import Overworld.Script.Machine
import Overworld.Script.Simplify

/-!
# Running scripts in a host

A host lends a script its functions and a state of its own. Running a script takes the
steps of the machine one after the other and answers its requests from the host; nothing
else touches the host's state.
-/

namespace Overworld.Script

/-- The functions of a host with states `σ`: for a name and arguments, what the function does, if
there is one. A function that fails raises a value and may still have changed the state. -/
abbrev Library (σ : Type) := String → List Value → Option (ExceptT Value (StateM σ) Value)

/-- How many steps a script may take. Every few steps take an operation, so the number of
operations is what runs out first. -/
def stepLimit : Nat := 16 * operationLimit

/-- The machine after a host has answered. -/
def Machine.answered (m : Machine) (place : Place) : Except Value Value → Machine
  | .ok value => m.give value
  | .error value => m.fail (.raised value) place

/-- Takes steps until the script ends. -/
def Machine.run {σ : Type} (library : Library σ) (p : Program) :
    Nat → Machine → StateM σ (Except Failure Value)
  | 0, _ => return .error { cause := .tooManyOperations, place := {} }
  | steps + 1, m =>
    match m.step p with
    | .next m => m.run library p steps
    | .ended result => return result
    | .ask name arguments place m =>
      match library name arguments with
      | none => (m.fail (.unknownFunction (signature name arguments)) place).run library p steps
      | some function => do
        (m.answered place (← function.run)).run library p steps

/-- Runs a program in a host. -/
def Program.run {σ : Type} (library : Library σ) (p : Program) : StateM σ (Except Failure Value) :=
  (Machine.load p.simplified).run library p.simplified stepLimit

end Overworld.Script
