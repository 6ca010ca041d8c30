/-!
# Buttons

The logical buttons that a field session reads.
-/

namespace Overworld

/-- A button. -/
inductive Button where
  | up
  | down
  | left
  | right
  | confirm
  | cancel
  | debugOverlay
  deriving DecidableEq, Inhabited, Repr

namespace Button

/-- All buttons. -/
def all : List Button := [.up, .down, .left, .right, .confirm, .cancel, .debugOverlay]

/-- The name of a button. -/
def label : Button → String
  | .up => "up"
  | .down => "down"
  | .left => "left"
  | .right => "right"
  | .confirm => "confirm"
  | .cancel => "cancel"
  | .debugOverlay => "debug_overlay"

/-- The button with a name. -/
def ofLabel? (label : String) : Option Button := all.find? (·.label = label)

/-- The keys of a button when no settings say otherwise. -/
def defaultKeys : Button → List String
  | .up => ["up"]
  | .down => ["down"]
  | .left => ["left"]
  | .right => ["right"]
  | .confirm => ["enter", "space", "c"]
  | .cancel => ["escape", "x"]
  | .debugOverlay => ["w"]

theorem mem_all (b : Button) : b ∈ all := by cases b <;> decide

end Button

end Overworld
