import Overworld.Session.Transfer

/-!
# Frames of a session

A frame runs the plugins, refreshes the map if it was asked for, advances the
interpreter, and, when nothing is running, lets the player react to the input. A transfer
that was requested on the way is the last thing of its frame. Off the map only the
plugins run.
-/

namespace Overworld

/-- The buttons that move the player, in the order in which they are looked at. -/
def Button.moves : List (Button × Direction) :=
  [(.down, .down), (.left, .left), (.right, .right), (.up, .up)]

namespace FieldContext

/-- The first event on a tile that has anything to execute. -/
def executableAt? (c : FieldContext) (x y : Int) : Option UInt32 :=
  (c.snapshot.map.events.toList.find? fun e => e.isAt x y && e.isExecutable).map (·.id)

/-- The event that the player faces, or else the one it stands on. -/
def eventInFront? (c : FieldContext) : Option UInt32 :=
  let offset := c.player.direction.offset
  (c.executableAt? (c.player.x + offset.1) (c.player.y + offset.2)).orElse fun _ =>
    c.executableAt? c.player.x c.player.y

/-- Moves the player in the direction of a button that is held. In debug mode it walks through
obstacles while the cancel button is held. -/
def steer (c : FieldContext) (input : Input) : FieldContext :=
  match Button.moves.find? fun move => input.press move.1 with
  | none => c
  | some (_, direction) =>
    let (moved, player) :=
      c.player.step c.snapshot.map direction (c.debug && input.press .cancel)
    if moved then { c with player }.centerOnPlayer else { c with player }

end FieldContext

namespace Session

variable {ε : Type}

/-- Refreshes the map if it was asked for. -/
def refreshIfNeeded (s : Session ε) : Session ε :=
  { s with context := s.context.refreshIfNeeded }

/-- Advances the interpreter by one tick. A fault stops everything that was running. -/
def runInterpreter (s : Session ε) : Except Fault TickOutcome × Session ε :=
  match s.interpreter.update s.world with
  | (.ok outcome, interpreter, w) => (.ok outcome, { s with interpreter }.setWorld w)
  | (.error fault, interpreter, w) =>
    (.error fault, { s with interpreter := interpreter.clear }.setWorld w)

/-- Lets the player react to the input. -/
def reactToInput (s : Session ε) (input : Input) : Session ε :=
  let s := { s with context := s.context.steer input }
  if input.trigger .confirm then
    match s.context.eventInFront? with
    | some event => (s.startEvent event).2
    | none => s
  else s

/-- Turns the player. -/
def face (s : Session ε) (direction : Option Direction) : Session ε :=
  { s with context := { s.context with
      player := { s.context.player with
        direction := direction.getD s.context.player.direction } } }

variable {m : Type → Type} [Monad m] [BitmapLoader m] [DataSource m] [Plugin m ε]

/-- Carries out the transfer that is pending, if there is one. -/
def settleTransfer (s : Session ε) : m (Except Fault Unit × Session ε) :=
  match s.pendingTransfer with
  | none => return (.ok (), s)
  | some request => do
    match ← { s with pendingTransfer := none }.transfer request.map request.x request.y with
    | (.error fault, s) => return (.error fault, s)
    | (.ok (), s) => return (.ok (), s.face request.direction)

/-- The part of a frame that needs the map on screen. -/
def playMap (s : Session ε) (input : Input) : m (Except Fault TickOutcome × Session ε) :=
  match s.refreshIfNeeded.runInterpreter with
  | (.error fault, s) => return (.error fault, s)
  | (.ok outcome, s) => do
    let s := s.refreshIfNeeded
    let s :=
      if s.interpreter.isRunning || s.pendingTransfer.isSome then s else s.reactToInput input
    let (result, s) ← s.settleTransfer
    return (result.map fun _ => outcome, s)

/-- Plays one frame. -/
def update (s : Session ε) (input : Input) : m (Except Fault TickOutcome × Session ε) := do
  let s := { s with frame := s.frame + 1 }
  let run ← Plugin.updateAll s.plugins input s.context
  let s := { s with plugins := run.plugins, context := run.context }
  match run.result with
  | .error fault => return (.error fault, s)
  | .ok () => if s.context.scene.isMap then s.playMap input else return (.ok .idle, s)

end Session

end Overworld
