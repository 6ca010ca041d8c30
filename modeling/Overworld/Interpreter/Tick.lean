import Overworld.Config
import Overworld.Interpreter.Command

/-!
# Ticks

The interpreter advances its stack by one tick at a time. The frame on top is the only
one that runs; when its list ends its caller goes on in the same tick. A tick ends when
nothing is left to run, when the frame on top waits, when the commands of a tick are
used up, when a transfer has been requested, or with a fault.
-/

namespace Overworld

/-- How a tick ended. -/
inductive TickOutcome where
  /-- There was nothing to run. -/
  | idle
  /-- The frame on top is waiting. -/
  | waiting
  /-- The commands of a tick are used up, or a transfer has been requested. -/
  | yielded
  /-- The last frame has ended. -/
  | finished
  deriving DecidableEq, Inhabited

/-- The name of an outcome. -/
def TickOutcome.label : TickOutcome → String
  | .idle => "Idle"
  | .waiting => "Waiting"
  | .yielded => "Yielded"
  | .finished => "Finished"

/-- What a tick leads to. -/
structure Tick where
  result : Except Fault TickOutcome
  frames : FrameStack
  world : World
  deriving Inhabited

/-- Executes the next instruction of the frame on top, if there is one. -/
def Frame.executeNext (limit : UInt32) (top : Frame) (below : FrameStack) (w : World) : Effect :=
  match top.list[top.cursor]? with
  | none => { frames := top :: below, world := w }
  | some i => i.command.execute limit { top with cursor := top.cursor + 1 } below w

/-- Runs a stack with a budget of commands. -/
def FrameStack.advance (limit : UInt32) : Nat → FrameStack → World → Tick
  | _, [], w => { result := .ok .finished, frames := [], world := w }
  | 0, top :: below, w =>
    if top.wait = 0 then { result := .ok .yielded, frames := top :: below, world := w }
    else
      { result := .ok .waiting, frames := { top with wait := top.wait - 1 } :: below, world := w }
  | budget + 1, frames, w =>
    match frames.settle with
    | [] => { result := .ok .finished, frames := [], world := w }
    | top :: below =>
      if top.wait = 0 then
        let effect := top.executeNext limit below w
        match effect.flow with
        | .go => advance limit budget effect.frames effect.world
        | .yield => { result := .ok .yielded, frames := effect.frames, world := effect.world }
        | .fail fault => { result := .error fault, frames := effect.frames, world := effect.world }
      else
        { result := .ok .waiting, frames := { top with wait := top.wait - 1 } :: below, world := w }

/-- The interpreter: its stack, the depth of frames at the bottom of it and its bounds. -/
structure Interpreter where
  baseDepth : UInt32 := 0
  maxDepth : UInt32
  commandsPerTick : Nat
  frames : FrameStack := []
  deriving Inhabited

namespace Interpreter

/-- An interpreter with these settings; every tick has at least one command. -/
def ofConfig (baseDepth : UInt32) (c : InterpreterConfig) : Interpreter :=
  { baseDepth, maxDepth := c.maxDepth, commandsPerTick := max c.commandsPerTick 1 }

/-- Whether anything is running. -/
def isRunning (i : Interpreter) : Bool := !i.frames.isEmpty

/-- The depth of the frame on top. -/
def depth (i : Interpreter) : UInt32 := (i.frames.head?.map (·.depth)).getD i.baseDepth

/-- Starts the active page of an event, unless something is running or there is nothing to
execute. -/
def setupEvent (i : Interpreter) (map : FieldMap) (event : UInt32) : Bool × Interpreter :=
  if i.isRunning then (false, i)
  else
    match ((map.events.get? event).filter MapEvent.isExecutable).bind
        (Frame.ofEvent? i.baseDepth map.id) with
    | some frame => (true, { i with frames := [frame] })
    | none => (false, i)

/-- Starts a list on behalf of an event, unless something is running. -/
def setupList (i : Interpreter) (list : List Instruction) (event : UInt32) : Bool × Interpreter :=
  if i.isRunning then (false, i)
  else (true, { i with frames := [{ depth := i.baseDepth, event, list }] })

/-- Stops everything. -/
def clear (i : Interpreter) : Interpreter := { i with frames := [] }

/-- Calls an event on top of the stack; says whether anything was called. -/
def call (i : Interpreter) (map : FieldMap) (target : CallTarget) :
    Except Fault Bool × Interpreter :=
  match target.childFrame map i.depth i.maxDepth with
  | .error fault => (.error fault, i)
  | .ok none => (.ok false, i)
  | .ok (some child) => (.ok true, { i with frames := child :: i.frames })

/-- Advances the stack by one tick. -/
def update (i : Interpreter) (w : World) : Except Fault TickOutcome × Interpreter × World :=
  if i.isRunning then
    let tick := FrameStack.advance i.maxDepth i.commandsPerTick (i.frames.revalidate w.map) w
    (tick.result, { i with frames := tick.frames }, tick.world)
  else (.ok .idle, i, w)

end Interpreter

end Overworld
