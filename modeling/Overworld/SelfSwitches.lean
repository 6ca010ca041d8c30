import Overworld.Json.Shape

/-!
# Self switches

Flags that belong to one event of one map. A switch may also belong to no event:
that is where a write to an event that does not exist goes, and no event reads
it. Switches outlive maps and reloads.
-/

namespace Overworld

/-- The name of a self switch. -/
structure SwitchKey where
  map : UInt32
  event : Option UInt32
  switch : String
  deriving DecidableEq, Inhabited

/-- Switch names in saved files. -/
def SwitchKey.shape : Json.Shape SwitchKey :=
  Json.Shape.record { map := 0, event := none, switch := "" }
    [.of "map_id" true .uint32 fun k v => { k with map := v },
     .of "event_id" false (.optional .uint32) fun k v => { k with event := v },
     .of "switch" true .text fun k v => { k with switch := v }]

/-- The name as a JSON value. -/
def SwitchKey.toJson (k : SwitchKey) : Json :=
  .obj [("event_id", .ofOption (fun id => .nat id.toNat) k.event), ("map_id", .nat k.map.toNat),
    ("switch", .str k.switch)]

/-- The order of switch names: by map, then by event with the switches of no event first, then by
switch. -/
def SwitchKey.le (a b : SwitchKey) : Bool :=
  if a.map ≠ b.map then a.map < b.map
  else
    match a.event, b.event with
    | none, some _ => true
    | some _, none => false
    | some x, some y => if x ≠ y then x < y else a.switch ≤ b.switch
    | none, none => a.switch ≤ b.switch

/-- The switches that have been set, in the order of their first writes. -/
structure SelfSwitches where
  entries : List (SwitchKey × Bool) := []
  deriving DecidableEq, Inhabited

namespace SelfSwitches

/-- The value of a switch; one that was never set is off. -/
def get (s : SelfSwitches) (key : SwitchKey) : Bool := (s.entries.lookup key).getD false

/-- Writes an entry, in its old place if there is one. -/
def write (key : SwitchKey) (value : Bool) : List (SwitchKey × Bool) → List (SwitchKey × Bool)
  | [] => [(key, value)]
  | (k, v) :: rest => if k = key then (key, value) :: rest else (k, v) :: write key value rest

/-- Sets a switch. -/
def set (s : SelfSwitches) (key : SwitchKey) (value : Bool) : SelfSwitches :=
  { entries := write key value s.entries }

/-- The number of switches that have been set. -/
def size (s : SelfSwitches) : Nat := s.entries.length

/-- The switches that have been set, in the order of their names. -/
def toSortedList (s : SelfSwitches) : List (SwitchKey × Bool) :=
  s.entries.mergeSort fun a b => a.1.le b.1

theorem lookup_write (key k : SwitchKey) (value : Bool) (entries : List (SwitchKey × Bool)) :
    (write key value entries).lookup k =
      if k = key then some value else entries.lookup k := by
  induction entries with
  | nil => by_cases h : k = key <;> simp [write, h]
  | cons entry rest ih =>
    obtain ⟨k', v⟩ := entry
    by_cases h' : k' = key
    · subst h'
      by_cases h : k = k'
      · simp [write, h]
      · simp [write, List.lookup_cons, beq_eq_false_iff_ne.mpr h, h]
    · by_cases h : k = k'
      · subst h
        simp [write, h']
      · simp [write, h', List.lookup_cons, beq_eq_false_iff_ne.mpr h, ih]

theorem get_set (s : SelfSwitches) (key k : SwitchKey) (value : Bool) :
    (s.set key value).get k = if k = key then value else s.get k := by
  by_cases h : k = key <;> simp [get, set, lookup_write, h]

end SelfSwitches

end Overworld
