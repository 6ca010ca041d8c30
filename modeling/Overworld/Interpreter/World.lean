import Overworld.Interpreter.Frame
import Overworld.Notice

/-!
# The world of a tick

What commands read and write while a tick runs: the live map, the tables, the self
switches, the notices and a slot for a requested transfer. Every write of a self
switch is noticed, and asks for the map to be refreshed.
-/

namespace Overworld

/-- What commands read and write. -/
structure World where
  map : FieldMap
  tables : DataTables
  switches : SelfSwitches := {}
  notices : NoticeBoard := []
  transfer : Option TransferRequest := none
  deriving Inhabited

namespace World

/-- Adds a notice. -/
def notify (w : World) (notice : Notice) : World := { w with notices := w.notices ++ [notice] }

/-- Asks for a refresh of the map. -/
def requestRefresh (w : World) : World := { w with map := { w.map with needRefresh := true } }

/-- The name of a self switch of the live map. -/
def switchKey (w : World) (event : Option UInt32) (switch : String) : SwitchKey :=
  { map := w.map.id, event, switch }

/-- Sets a self switch of the live map. -/
def setSwitch (w : World) (event : Option UInt32) (switch : String) (value : Bool) : World :=
  let key := w.switchKey event switch
  ({ w with switches := w.switches.set key value }.notify
    (.selfSwitchChanged key value)).requestRefresh

/-- The id of the event with a name. -/
def eventNamed? (w : World) (name : String) : Option UInt32 := (w.map.events.named? name).map (·.id)

/-- The value of a self switch of the event with a name. -/
def switchOf (w : World) (name switch : String) : Bool :=
  w.switches.get (w.switchKey (w.eventNamed? name) switch)

/-- Sets a self switch of the event with a name. If there is no such event the switch belongs to
none. -/
def setSwitchOf (w : World) (name switch : String) (value : Bool) : World :=
  w.setSwitch (w.eventNamed? name) switch value

end World

end Overworld
