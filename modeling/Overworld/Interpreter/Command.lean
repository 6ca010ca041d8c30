import Overworld.Interpreter.Script

/-!
# Commands

What one command does to the stack and to the world. The running frame has already
moved past the command. A fault leaves the stack as it is.
-/

namespace Overworld

/-- How a tick goes on after a command. -/
inductive Flow where
  | go
  | yield
  | fail (fault : Fault)
  deriving DecidableEq, Inhabited

/-- What a command leads to. -/
structure Effect where
  frames : FrameStack
  world : World
  flow : Flow := .go
  deriving Inhabited

/-- The lines that continue a script at the beginning of a list. -/
def scriptLines : List Instruction → List String
  | [] => []
  | i :: rest =>
    match i.command with
    | .scriptLine line => line :: scriptLines rest
    | _ => []

/-- Calls a common event for the event that the running frame acts for. -/
def Frame.callCommon (top : Frame) (limit : UInt32) (below : FrameStack) (c : CommonEvent)
    (w : World) : Effect :=
  let depth := top.depth + 1
  if limit < depth then
    { frames := top :: below, world := w, flow := .fail (.callTooDeep depth limit) }
  else { frames := Frame.ofCommon depth c top.event :: top :: below, world := w }

/-- The text of a script: the line of its command and those that continue it. -/
def Frame.scriptText (top : Frame) (line : String) : String :=
  "\n".intercalate (line :: scriptLines (top.list.drop top.cursor))

/-- The frame behind the lines of a script. -/
def Frame.pastScript (top : Frame) : Frame :=
  { top with cursor := top.cursor + (scriptLines (top.list.drop top.cursor)).length }

/-- What the answer of a script makes of the stack: the child is put on top, if there is one. -/
def Frame.afterScript (top : Frame) (below : FrameStack) :
    Except Fault (Option Frame) × World → Effect
  | (.error fault, w) => { frames := top :: below, world := w, flow := .fail fault }
  | (.ok none, w) => { frames := top :: below, world := w }
  | (.ok (some child), w) => { frames := child :: top :: below, world := w }

/-- Runs a script together with the lines that continue it. -/
def Frame.callScript (top : Frame) (limit : UInt32) (below : FrameStack) (line : String)
    (w : World) : Effect :=
  top.pastScript.afterScript below
    (runScript (top.scriptText line) { depth := top.depth, limit, event := top.event } w)

/-- Sets a self switch of the event that the running frame acts for, if there is one. The map is
refreshed in any case. -/
def Frame.assignSwitch (top : Frame) (assignment : Option (String × Bool)) (w : World) : World :=
  match assignment with
  | some (switch, value) =>
    if top.event = 0 then w.requestRefresh else w.setSwitch (some top.event) switch value
  | none => w.requestRefresh

/-- Executes a command. -/
def Command.execute (limit : UInt32) (top : Frame) (below : FrameStack) (w : World) :
    Command → Effect
  | .finish outermost => { frames := if outermost then below else top :: below, world := w }
  | .comment | .scriptLine _ | .unsupported => { frames := top :: below, world := w }
  | .wait ticks => { frames := { top with wait := ticks } :: below, world := w }
  | .exit => { frames := below, world := w }
  | .callCommon id =>
    match id.bind w.tables.commonEvent? with
    | none => { frames := top :: below, world := w }
    | some c => top.callCommon limit below c w
  | .setSelfSwitch assignment =>
    { frames := top :: below, world := top.assignSwitch assignment w }
  | .transfer none => { frames := top :: below, world := w }
  | .transfer (some request) =>
    { frames := top :: below, world := { w with transfer := some request }, flow := .yield }
  | .script line => top.callScript limit below line w

end Overworld
