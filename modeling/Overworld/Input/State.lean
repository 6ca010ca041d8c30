import Overworld.Input.Bindings

/-!
# Input

Which buttons are held, and which went down in the current frame. A key that
repeats while it is held does not trigger again.
-/

namespace Overworld

/-- The state of the buttons. -/
structure Input where
  bindings : Bindings := {}
  held : List Button := []
  triggered : List Button := []
  deriving Inhabited

namespace Input

/-- Presses or releases a button. -/
def setButton (i : Input) (button : Button) (pressed : Bool) : Input :=
  if pressed then
    if button ∈ i.held then i
    else { i with held := button :: i.held, triggered := button :: i.triggered }
  else { i with held := i.held.filter (· ≠ button) }

/-- Presses or releases a key. -/
def setKey (i : Input) (key : String) (pressed : Bool) : Input :=
  (i.bindings.buttons key).foldl (fun i button => i.setButton button pressed) i

/-- Whether a button is held. -/
def press (i : Input) (button : Button) : Bool := button ∈ i.held

/-- Whether a button went down in this frame. -/
def trigger (i : Input) (button : Button) : Bool := button ∈ i.triggered

/-- Starts a new frame. -/
def clearFrame (i : Input) : Input := { i with triggered := [] }

end Input

end Overworld
