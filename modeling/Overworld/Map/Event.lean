import Overworld.Record.Event
import Overworld.SelfSwitches

/-!
# Events on a map

A live event is its record, a place, and which of its pages is active. How it
looks and whether it can be walked through follow from the active page; without
one it shows nothing and is no obstacle.
-/

namespace Overworld

/-- A live event. -/
structure MapEvent where
  id : UInt32
  name : String
  x : Int
  y : Int
  pages : List EventPage
  erased : Bool := false
  page : Option Nat := none
  deriving Inhabited

namespace MapEvent

/-- The event of a record, before any page has been selected. -/
def ofRecord (r : EventRecord) : MapEvent :=
  { id := r.id, name := r.name, x := r.x.toInt, y := r.y.toInt, pages := r.pages }

/-- An event with a single page, which is active. -/
def ofList (id : UInt32) (name : String) (list : List Instruction) : MapEvent :=
  { id, name, x := 0, y := 0, pages := [{ list }], page := some 0 }

/-- The active page. -/
def activePage? (e : MapEvent) : Option EventPage := e.page.bind fun index => e.pages[index]?

/-- Whether the event is no obstacle. -/
def through (e : MapEvent) : Bool := e.activePage?.elim true (·.through)

/-- The tile that the event shows; 0 for none. -/
def tile (e : MapEvent) : UInt16 := e.activePage?.elim 0 (·.graphic.tile)

/-- The character that the event shows; empty for none. -/
def character (e : MapEvent) : String := e.activePage?.elim "" (·.graphic.character)

/-- The instructions of the active page. -/
def list? (e : MapEvent) : Option (List Instruction) := e.activePage?.map (·.list)

/-- Whether the event stands on a tile. -/
def isAt (e : MapEvent) (x y : Int) : Bool := e.x == x && e.y == y

/-- Whether running the event does anything: it is not erased and its active page has an
instruction that is more than form. -/
def isExecutable (e : MapEvent) : Bool :=
  !e.erased && e.list?.any fun list => list.any fun i => !i.isStructural

/-- Removes the event from play for as long as the map is loaded. -/
def erase (e : MapEvent) : MapEvent := { e with erased := true, page := none }

/-- Whether a page may be active for the event with this id. -/
def meets (map id : UInt32) (switches : SelfSwitches) (page : EventPage) : Bool :=
  match page.condition.selfSwitch with
  | none => true
  | some switch => switches.get { map, event := some id, switch }

/-- The place of the last element with a property, counted from `start`. -/
def lastIndex? {α : Type} (p : α → Bool) (start : Nat) : List α → Option Nat
  | [] => none
  | a :: rest =>
    match lastIndex? p (start + 1) rest with
    | some index => some index
    | none => if p a then some start else none

/-- The page that should be active: the last one whose condition holds. -/
def dueOf (map : UInt32) (switches : SelfSwitches) (e : MapEvent) : Option Nat :=
  if e.erased then none else lastIndex? (meets map e.id switches) 0 e.pages

/-- Activates the page that is due. -/
def refresh (map : UInt32) (switches : SelfSwitches) (e : MapEvent) : MapEvent :=
  { e with page := e.dueOf map switches }

/-- Moves the event. -/
def place (x y : Int) (e : MapEvent) : MapEvent := { e with x, y }

end MapEvent

end Overworld
