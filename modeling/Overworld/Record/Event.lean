import Overworld.Record.Instruction

/-!
# Event records

A map event as its data file has it: a place and a list of pages, of which at most
one is active at a time.
-/

namespace Overworld

/-- When a page may be active: always, or while a self switch of its event is on. -/
structure PageCondition where
  selfSwitch : Option String := none
  deriving DecidableEq, Inhabited

/-- What an event looks like: a tile of the map's tileset, a character, or nothing. -/
structure EventGraphic where
  tile : UInt16 := 0
  character : String := ""
  deriving DecidableEq, Inhabited

/-- A page of an event. -/
structure EventPage where
  condition : PageCondition := {}
  graphic : EventGraphic := {}
  through : Bool := false
  list : List Instruction := []
  deriving Inhabited

/-- A map event as written. -/
structure EventRecord where
  id : UInt32
  name : String := ""
  x : Int32 := 0
  y : Int32 := 0
  pages : List EventPage := []
  deriving Inhabited

/-- Page conditions in data files. -/
def PageCondition.shape : Json.Shape PageCondition :=
  Json.Shape.record {}
    [.of "self_switch" false (.optional .text) fun c v => { c with selfSwitch := v }]

/-- The condition as a JSON value, which is empty when the page may always be active. -/
def PageCondition.toJson (c : PageCondition) : Json :=
  match c.selfSwitch with
  | none => .obj []
  | some name => .obj [("self_switch", .str name)]

/-- Graphics in data files. -/
def EventGraphic.shape : Json.Shape EventGraphic :=
  Json.Shape.record {}
    [.of "tile_id" false .uint16 fun g v => { g with tile := v },
     .of "character_name" false .text fun g v => { g with character := v }]

/-- The graphic as a JSON value. -/
def EventGraphic.toJson (g : EventGraphic) : Json :=
  .obj [("character_name", .str g.character), ("tile_id", .nat g.tile.toNat)]

/-- Pages in data files. -/
def EventPage.shape : Json.Shape EventPage :=
  Json.Shape.record {}
    [.of "condition" false PageCondition.shape fun p v => { p with condition := v },
     .of "graphic" false EventGraphic.shape fun p v => { p with graphic := v },
     .of "through" false .bool fun p v => { p with through := v },
     .of "list" false (.list Instruction.shape) fun p v => { p with list := v }]

/-- The page as a JSON value. -/
def EventPage.toJson (p : EventPage) : Json :=
  .obj [("condition", p.condition.toJson), ("graphic", p.graphic.toJson),
    ("list", .arr (p.list.map Instruction.toJson)), ("through", .bool p.through)]

/-- Events in data files. -/
def EventRecord.shape : Json.Shape EventRecord :=
  Json.Shape.record { id := 0 }
    [.of "id" true .uint32 fun e v => { e with id := v },
     .of "name" false .text fun e v => { e with name := v },
     .of "x" false .int32 fun e v => { e with x := v },
     .of "y" false .int32 fun e v => { e with y := v },
     .of "pages" false (.list EventPage.shape) fun e v => { e with pages := v }]

/-- The event as a JSON value. -/
def EventRecord.toJson (e : EventRecord) : Json :=
  .obj [("id", .nat e.id.toNat), ("name", .str e.name),
    ("pages", .arr (e.pages.map EventPage.toJson)), ("x", .int e.x.toInt), ("y", .int e.y.toInt)]

end Overworld
