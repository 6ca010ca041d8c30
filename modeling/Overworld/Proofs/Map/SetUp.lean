import Mathlib.Tactic.MkIffOfInductiveProp
import Overworld.Proofs.Map.NamedSwitches
import Overworld.Proofs.Map.TileSlots

/-!
# Maps as they are set up

A map that is set up has what its record defines: the sides, the tiles, the tileset, and for every
id the event of the last record with that id. Which pages are active is no part of this; it follows
from the self switches.
-/

namespace Overworld

/-- A record defines what an event is. -/
@[mk_iff]
structure MapEvent.DefinedBy (e : MapEvent) (r : EventRecord) : Prop where
  id_eq : e.id = r.id
  name_eq : e.name = r.name
  x_eq : e.x = r.x.toInt
  y_eq : e.y = r.y.toInt
  pages_eq : e.pages = r.pages

/-- An event as far as its record goes. How far it has come in the game is left out. -/
def MapEvent.definition (e : MapEvent) : MapEvent := { e with erased := false, page := none }

/-- A map as far as its record goes. -/
def FieldMap.definition (m : FieldMap) : FieldMap where
  id := m.id
  tileset := m.tileset
  ground := m.ground
  events := m.events.map MapEvent.definition fun _ => rfl

/-- The event record that counts for an id: the last one. -/
def MapRecord.event? (r : MapRecord) (id : UInt32) : Option EventRecord :=
  r.events.reverse.find? (·.id = id)

/-- A record defines what is on a map. Tiles that it does not list are 0. A tileset that is not in
the table, where the first with an id counts, has neither passages nor priorities. -/
@[mk_iff]
structure FieldMap.DefinedBy (m : FieldMap) (id : UInt32) (r : MapRecord)
    (tilesets : List Tileset) : Prop where
  id_eq : m.id = id
  width_eq : m.width = r.width.toNat
  height_eq : m.height = r.height.toNat
  tile_eq {x y layer : Nat} : x < r.width.toNat → y < r.height.toNat → layer < layerCount →
    m.ground.get? x y layer = some
      (r.tiles.getD (layer * (r.width.toNat * r.height.toNat) + y * r.width.toNat + x) 0)
  tileset_eq : m.tileset = (tilesets.find? (·.id = r.tileset)).getD { id := r.tileset }
  event_rel (event : UInt32) : Option.Rel MapEvent.DefinedBy (m.events.get? event) (r.event? event)

namespace Roster

/-- After an event has been put in, it is found under its id, and nothing changes under others. -/
theorem find?_insertInto (e : MapEvent) (events : List MapEvent) (id : UInt32) :
    (insertInto e events).find? (·.id = id) =
      if e.id = id then some e else events.find? (·.id = id) := by
  induction events with
  | nil => by_cases hid : e.id = id <;> simp [insertInto, hid]
  | cons f rest ih =>
    by_cases hsame : e.id = f.id
    · have hplace : insertInto e (f :: rest) = e :: rest := by simp [insertInto, hsame]
      rw [hplace, List.find?_cons, List.find?_cons, hsame]
      by_cases hid : f.id = id <;> simp [hid]
    · by_cases hlt : e.id < f.id
      · rw [insertInto, if_pos hlt, List.find?_cons]
        by_cases hid : e.id = id <;> simp [hid]
      · rw [insertInto, if_neg hlt, if_neg hsame, List.find?_cons, List.find?_cons, ih]
        by_cases hid : f.id = id
        · have hother : ¬ e.id = id := fun he => hsame (he.trans hid.symm)
          simp [hid, hother]
        · simp [hid]

/-- Of events that are put in one after the other, the last with an id is found under it. -/
theorem get?_foldl_insert (r : Roster) (events : List MapEvent) (id : UInt32) :
    (events.foldl insert r).get? id = (events.reverse.find? (·.id = id)).or (r.get? id) := by
  induction events generalizing r with
  | nil => rfl
  | cons e rest ih =>
    have hinsert : (r.insert e).get? id = if e.id = id then some e else r.get? id :=
      find?_insertInto e r.toList id
    rw [List.foldl_cons, ih, hinsert, List.reverse_cons, List.find?_append]
    by_cases hid : e.id = id <;> simp [hid]

/-- The last of the events with an id is the one of the roster. -/
theorem get?_ofList (events : List MapEvent) (id : UInt32) :
    (ofList events).get? id = events.reverse.find? (·.id = id) := by
  rw [ofList, get?_foldl_insert]
  exact Option.or_none

end Roster

/-- What a record defines of an event is the definition of the event. -/
theorem MapEvent.definition_definedBy {e : MapEvent} {r : EventRecord} :
    e.definition.DefinedBy r ↔ e.DefinedBy r := by
  simp only [definedBy_iff, definition]

namespace FieldMap

variable {id : UInt32} {r : MapRecord} {tilesets : List Tileset}

/-- A map whose sides are not too long is set up as its record defines it. -/
theorem ofRecord_definedBy (hwidth : r.width.toNat ≤ maxMapSide)
    (hheight : r.height.toNat ≤ maxMapSide) (switches : SelfSwitches) :
    (ofRecord id r tilesets switches).DefinedBy id r tilesets := by
  refine ⟨rfl, Nat.min_eq_left hwidth, Nat.min_eq_left hheight, fun hx hy hlayer => ?_, rfl,
    fun event => ?_⟩
  · exact MapRecord.get?_ground hwidth hheight id tilesets switches hx hy hlayer
  · have hevent : (ofRecord id r tilesets switches).events.get? event =
        (r.event? event).map fun record => (MapEvent.ofRecord record).refresh id switches := by
      unfold ofRecord
      rw [get?_refresh, Roster.get?_ofList, ← List.map_reverse, List.find?_map, Option.map_map]
      rfl
    rw [hevent]
    cases r.event? event with
    | none => exact .none
    | some record => exact .some ⟨rfl, rfl, rfl, rfl, rfl⟩

/-- The event record that counts for an id has its event on the map. -/
theorem DefinedBy.exists_event {m : FieldMap} (h : m.DefinedBy id r tilesets) {event : UInt32}
    {record : EventRecord} (hrecord : r.event? event = some record) :
    ∃ e, m.events.get? event = some e ∧ e.DefinedBy record := by
  have hrel := h.event_rel event
  rw [hrecord] at hrel
  cases hget : m.events.get? event with
  | none => simp [hget] at hrel
  | some e => exact ⟨e, rfl, by simpa [hget] using hrel⟩

/-- What a record defines of a map is the definition of the map. -/
theorem definition_definedBy {m : FieldMap} :
    m.definition.DefinedBy id r tilesets ↔ m.DefinedBy id r tilesets := by
  have hevent (event : UInt32) :
      Option.Rel MapEvent.DefinedBy (m.definition.events.get? event) (r.event? event) ↔
        Option.Rel MapEvent.DefinedBy (m.events.get? event) (r.event? event) := by
    have hget : m.definition.events.get? event = (m.events.get? event).map MapEvent.definition :=
      m.events.get?_map MapEvent.definition (fun _ => rfl) event
    rw [hget]
    cases m.events.get? event <;> cases r.event? event <;> simp [MapEvent.definition_definedBy]
  simp only [definedBy_iff, hevent]
  rfl

end FieldMap

end Overworld
