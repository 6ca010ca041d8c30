import Overworld.Data.Tables
import Overworld.Map.FieldMap

/-!
# Frames

A running list of instructions: where the list came from, for which event it acts and
how far it has come. A frame whose map has been replaced keeps running but belongs to
nothing any more.
-/

namespace Overworld

/-- Where the list of a frame came from. -/
inductive FrameSource where
  | mapEvent (map event : UInt32)
  | common (id : UInt32)
  /-- Bound to nothing: a list from outside, or one that outlived its map. -/
  | detached
  deriving DecidableEq, Inhabited

/-- The wording of a source. -/
def FrameSource.text : FrameSource → String
  | .mapEvent map event => "map " ++ toString map ++ " event " ++ toString event
  | .common id => "common " ++ toString id
  | .detached => "detached"

/-- A running list. It acts for `event`; 0 stands for no event. Depths are words of 32 bits: above
the greatest one the levels start again at 0. -/
structure Frame where
  depth : UInt32
  source : FrameSource := .detached
  event : UInt32 := 0
  list : List Instruction
  cursor : Nat := 0
  wait : Nat := 0
  deriving Inhabited

namespace Frame

/-- The frame that runs the active page of an event. -/
def ofEvent? (depth : UInt32) (map : UInt32) (e : MapEvent) : Option Frame :=
  e.list?.map fun list => { depth, source := .mapEvent map e.id, event := e.id, list }

/-- The frame that runs a common event for an event. -/
def ofCommon (depth : UInt32) (c : CommonEvent) (event : UInt32) : Frame :=
  { depth, source := .common c.id, event, list := c.list }

/-- Whether the list has no further instruction. -/
def isDone (f : Frame) : Bool := f.list.length ≤ f.cursor

/-- Whether the frame may go on running on a map: a frame of one of the map's own events needs
that event to be there and not erased. -/
def ownerPresent (map : FieldMap) (f : Frame) : Bool :=
  match f.source with
  | .mapEvent id event => id != map.id || (map.events.get? event).any fun e => !e.erased
  | _ => true

/-- The frame as it goes on running on a map: one of another map's event is bound to nothing. -/
def rebound (map : FieldMap) (f : Frame) : Frame :=
  match f.source with
  | .mapEvent id _ => if id = map.id then f else { f with source := .detached, event := 0 }
  | _ => f

end Frame

/-- A stack of frames, the one that runs first. Every other frame waits for those before it. -/
abbrev FrameStack : Type := List Frame

/-- The frames that may go on running on a map. A frame whose event is gone takes everything it
called with it. -/
def FrameStack.revalidate (frames : FrameStack) (map : FieldMap) : FrameStack :=
  ((frames.reverse.takeWhile (Frame.ownerPresent map)).map (Frame.rebound map)).reverse

/-- The frames without those on top that have run off their lists. -/
def FrameStack.settle : FrameStack → FrameStack
  | [] => []
  | top :: below => if top.wait = 0 ∧ top.isDone then settle below else top :: below

end Overworld
