import Mathlib
import Overworld.Proofs.Json.RoundTrip
import Overworld.Record.Tables
import Overworld.SelfSwitches

/-!
# Records that go around

The records of the data files are read as they have been written, down to the parameters of their
instructions, which are any values. A record that has been read of something else, with defaults for
absent fields or as an array of its fields, is read again from what is written of it.
-/

namespace Overworld

open Json Json.Shape

/-- The parameters of the instruction are values that can be kept. -/
def Instruction.IsKept (i : Instruction) : Prop := ∀ j ∈ i.parameters, j.IsKept

/-- The instructions of the page can be kept. -/
def EventPage.IsKept (p : EventPage) : Prop := ∀ i ∈ p.list, i.IsKept

/-- The instructions of the event can be kept. -/
def EventRecord.IsKept (e : EventRecord) : Prop := ∀ p ∈ e.pages, p.IsKept

/-- The instructions of the common event can be kept. -/
def CommonEvent.IsKept (c : CommonEvent) : Prop := ∀ i ∈ c.list, i.IsKept

/-- The instructions of the map's events can be kept. -/
def MapRecord.IsKept (m : MapRecord) : Prop := ∀ e ∈ m.events, e.IsKept

/-- Instructions are read as written. -/
theorem Instruction.shape_inverts : shape.Inverts toJson IsKept where
  isKept {i} h := by
    refine .of_keys ["code", "indent", "parameters"] rfl (by decide) ?_
    simp only [List.forall_mem_cons]
    exact ⟨.num _, .num _, values_inverts.isKept h, by simp⟩
  reads {i} h := by
    refine record_reads ["parameters", "indent", "code"] ?_ rfl
    rw [int32_inverts.fieldsByName (b := i.code) trivial rfl (by decide),
      int32_inverts.fieldsByName (b := i.indent) trivial rfl (by decide),
      values_inverts.fieldsByName h rfl (by decide)]
    rfl
  valid_of_read := by
    refine record_induction (fun _ hnone => absurd hnone List.not_mem_nil) ?_
    simp only [List.forall_mem_cons]
    exact ⟨Field.keeps_of fun _ ha => ha, Field.keeps_of fun _ ha => ha,
      Field.keeps_of fun hread _ => values_inverts.valid_of_read hread, by simp⟩

/-- Page conditions are read as written, also if there is none. -/
theorem PageCondition.shape_inverts : shape.Inverts toJson fun _ => True where
  isKept {c} _ := by
    unfold toJson
    split
    · exact .of_keys [] rfl .nil (by simp)
    · refine .of_keys ["self_switch"] rfl (by decide) ?_
      simp only [List.forall_mem_cons]
      exact ⟨.str _, by simp⟩
  reads {c} _ := by
    obtain ⟨_ | name⟩ := c <;> rfl
  valid_of_read _ := trivial

/-- Graphics are read as written. -/
theorem EventGraphic.shape_inverts : shape.Inverts toJson fun _ => True where
  isKept _ := by
    refine .of_keys ["character_name", "tile_id"] rfl (by decide) ?_
    simp only [List.forall_mem_cons]
    exact ⟨.str _, .num _, by simp⟩
  reads {g} _ := by
    refine record_reads ["tile_id", "character_name"] ?_ rfl
    rw [text_inverts.fieldsByName (b := g.character) trivial rfl (by decide),
      uint16_inverts.fieldsByName (b := g.tile) trivial rfl (by decide)]
    rfl
  valid_of_read _ := trivial

/-- Pages are read as written. -/
theorem EventPage.shape_inverts : shape.Inverts toJson IsKept where
  isKept {p} h := by
    refine .of_keys ["condition", "graphic", "list", "through"] rfl (by decide) ?_
    simp only [List.forall_mem_cons]
    exact ⟨PageCondition.shape_inverts.isKept trivial, EventGraphic.shape_inverts.isKept trivial,
      Instruction.shape_inverts.list.isKept h, .bool _, by simp⟩
  reads {p} h := by
    refine record_reads ["through", "list", "graphic", "condition"] ?_ rfl
    rw [PageCondition.shape_inverts.fieldsByName (b := p.condition) trivial rfl (by decide),
      EventGraphic.shape_inverts.fieldsByName (b := p.graphic) trivial rfl (by decide),
      Instruction.shape_inverts.list.fieldsByName h rfl (by decide),
      bool_inverts.fieldsByName (b := p.through) trivial rfl (by decide)]
    rfl
  valid_of_read := by
    refine record_induction (fun _ hnone => absurd hnone List.not_mem_nil) ?_
    simp only [List.forall_mem_cons]
    exact ⟨Field.keeps_of fun _ ha => ha, Field.keeps_of fun _ ha => ha,
      Field.keeps_of fun _ ha => ha,
      Field.keeps_of fun hread _ => Instruction.shape_inverts.list.valid_of_read hread, by simp⟩

/-- Events are read as written. -/
theorem EventRecord.shape_inverts : shape.Inverts toJson IsKept where
  isKept {e} h := by
    refine .of_keys ["id", "name", "pages", "x", "y"] rfl (by decide) ?_
    simp only [List.forall_mem_cons]
    exact ⟨.num _, .str _, EventPage.shape_inverts.list.isKept h, .num _, .num _, by simp⟩
  reads {e} h := by
    refine record_reads ["y", "x", "pages", "name", "id"] ?_ rfl
    rw [uint32_inverts.fieldsByName (b := e.id) trivial rfl (by decide),
      text_inverts.fieldsByName (b := e.name) trivial rfl (by decide),
      EventPage.shape_inverts.list.fieldsByName h rfl (by decide),
      int32_inverts.fieldsByName (b := e.x) trivial rfl (by decide),
      int32_inverts.fieldsByName (b := e.y) trivial rfl (by decide)]
    rfl
  valid_of_read := by
    refine record_induction (fun _ hnone => absurd hnone List.not_mem_nil) ?_
    simp only [List.forall_mem_cons]
    exact ⟨Field.keeps_of fun _ ha => ha, Field.keeps_of fun _ ha => ha,
      Field.keeps_of fun _ ha => ha, Field.keeps_of fun _ ha => ha,
      Field.keeps_of fun hread _ => EventPage.shape_inverts.list.valid_of_read hread, by simp⟩

/-- Common events are read as written. -/
theorem CommonEvent.shape_inverts : shape.Inverts toJson IsKept where
  isKept {c} h := by
    refine .of_keys ["id", "list", "name"] rfl (by decide) ?_
    simp only [List.forall_mem_cons]
    exact ⟨.num _, Instruction.shape_inverts.list.isKept h, .str _, by simp⟩
  reads {c} h := by
    refine record_reads ["name", "list", "id"] ?_ rfl
    rw [uint32_inverts.fieldsByName (b := c.id) trivial rfl (by decide),
      Instruction.shape_inverts.list.fieldsByName h rfl (by decide),
      text_inverts.fieldsByName (b := c.name) trivial rfl (by decide)]
    rfl
  valid_of_read := by
    refine record_induction (fun _ hnone => absurd hnone List.not_mem_nil) ?_
    simp only [List.forall_mem_cons]
    exact ⟨Field.keeps_of fun _ ha => ha, Field.keeps_of fun _ ha => ha,
      Field.keeps_of fun hread _ => Instruction.shape_inverts.list.valid_of_read hread, by simp⟩

/-- Tilesets are read as written. -/
theorem Tileset.shape_inverts : shape.Inverts toJson fun _ => True where
  isKept _ := by
    refine .of_keys ["id", "name", "passages", "priorities", "tileset_name"] rfl (by decide) ?_
    simp only [List.forall_mem_cons]
    exact ⟨.num _, .str _, uint8_inverts.list.isKept fun _ _ => trivial,
      uint8_inverts.list.isKept fun _ _ => trivial, .str _, by simp⟩
  reads {t} _ := by
    refine record_reads ["tileset_name", "priorities", "passages", "name", "id"] ?_ rfl
    rw [uint32_inverts.fieldsByName (b := t.id) trivial rfl (by decide),
      text_inverts.fieldsByName (b := t.name) trivial rfl (by decide),
      uint8_inverts.list.fieldsByName (b := t.passages) (fun _ _ => trivial) rfl (by decide),
      uint8_inverts.list.fieldsByName (b := t.priorities) (fun _ _ => trivial) rfl (by decide),
      text_inverts.fieldsByName (b := t.graphic) trivial rfl (by decide)]
    rfl
  valid_of_read _ := trivial

/-- Maps are read as written. -/
theorem MapRecord.shape_inverts : shape.Inverts toJson IsKept where
  isKept {m} h := by
    refine .of_keys ["data", "events", "height", "tileset_id", "width"] rfl (by decide) ?_
    simp only [List.forall_mem_cons]
    exact ⟨uint16_inverts.list.isKept fun _ _ => trivial, EventRecord.shape_inverts.list.isKept h,
      .num _, .num _, .num _, by simp⟩
  reads {m} h := by
    refine record_reads ["width", "tileset_id", "height", "events", "data"] ?_ rfl
    rw [uint16_inverts.list.fieldsByName (b := m.tiles) (fun _ _ => trivial) rfl (by decide),
      EventRecord.shape_inverts.list.fieldsByName h rfl (by decide),
      uint32_inverts.fieldsByName (b := m.height) trivial rfl (by decide),
      uint32_inverts.fieldsByName (b := m.tileset) trivial rfl (by decide),
      uint32_inverts.fieldsByName (b := m.width) trivial rfl (by decide)]
    rfl
  valid_of_read := by
    refine record_induction (fun _ hnone => absurd hnone List.not_mem_nil) ?_
    simp only [List.forall_mem_cons]
    exact ⟨Field.keeps_of fun _ ha => ha, Field.keeps_of fun _ ha => ha,
      Field.keeps_of fun _ ha => ha, Field.keeps_of fun _ ha => ha,
      Field.keeps_of fun hread _ => EventRecord.shape_inverts.list.valid_of_read hread, by simp⟩

/-- Names of self switches are read as written, also those that belong to no event. -/
theorem SwitchKey.shape_inverts : shape.Inverts toJson fun _ => True where
  isKept {k} _ := by
    refine .of_keys ["event_id", "map_id", "switch"] rfl (by decide) ?_
    simp only [List.forall_mem_cons]
    exact ⟨(uint32_inverts.optional (by simp [Json.nat, Json.int])).isKept fun _ _ => trivial,
      .num _, .str _, by simp⟩
  reads {k} _ := by
    refine record_reads ["switch", "map_id", "event_id"] ?_ rfl
    rw [(uint32_inverts.optional (by simp [Json.nat, Json.int])).fieldsByName (b := k.event)
        (fun _ _ => trivial) rfl (by decide),
      uint32_inverts.fieldsByName (b := k.map) trivial rfl (by decide),
      text_inverts.fieldsByName (b := k.switch) trivial rfl (by decide)]
    rfl
  valid_of_read _ := trivial

/-- **The records of the data files go around.** What is written of a record is read as the same
record, whatever its numbers, texts and parameters are. A record that has been read of any value is
read again from what is written of it, so defaults for absent fields are stable. -/
theorem records_round_trip :
    RoundTrips MapRecord.shape MapRecord.toJson MapRecord.IsKept ∧
      RoundTrips Tileset.shape Tileset.toJson (fun _ => True) ∧
      RoundTrips CommonEvent.shape CommonEvent.toJson CommonEvent.IsKept ∧
      RoundTrips EventRecord.shape EventRecord.toJson EventRecord.IsKept ∧
      RoundTrips Instruction.shape Instruction.toJson Instruction.IsKept ∧
      RoundTrips SwitchKey.shape SwitchKey.toJson (fun _ => True) :=
  ⟨MapRecord.shape_inverts.roundTrips, Tileset.shape_inverts.roundTrips,
    CommonEvent.shape_inverts.roundTrips, EventRecord.shape_inverts.roundTrips,
    Instruction.shape_inverts.roundTrips, SwitchKey.shape_inverts.roundTrips⟩

/-- A map with an event of one page that has no condition. A parameter of its command is an
object. -/
private def shrineRecord : MapRecord :=
  let parameter : Json := .obj [("at", .arr [.int (-1), .str "altar"]), ("by", .null)]
  { width := 2, height := 1
    events := [{ id := 1, pages := [{ list := [{ code := 355, parameters := [parameter] }] }] }] }

/-- The map is read as written. One that is given by its size alone is read again from what is
written of it. -/
theorem records_round_trip_shrine :
    decode MapRecord.shape shrineRecord.toJson = .ok shrineRecord ∧
      decode MapRecord.shape (.obj [("height", .int 1), ("width", .int 2)]) =
        .ok { width := 2, height := 1 } ∧
      decode MapRecord.shape (MapRecord.toJson { width := 2, height := 1 }) =
        .ok { width := 2, height := 1 } := by
  have hkept : shrineRecord.IsKept := by
    have hparameter :
        (Json.obj [("at", .arr [.int (-1), .str "altar"]), ("by", .null)]).IsKept := by
      refine .of_keys ["at", "by"] rfl (by decide) ?_
      simp only [List.forall_mem_cons]
      refine ⟨.arr ?_, .null, by simp⟩
      simp only [List.forall_mem_cons]
      exact ⟨.num _, .str _, by simp⟩
    simpa [shrineRecord, MapRecord.IsKept, EventRecord.IsKept, EventPage.IsKept,
      Instruction.IsKept] using hparameter
  have hread : decode MapRecord.shape (.obj [("height", .int 1), ("width", .int 2)]) =
      .ok { width := 2, height := 1 } := by rfl
  exact ⟨records_round_trip.1.decode_toJson _ hkept, hread,
    records_round_trip.1.decode_again _ _ hread⟩

end Overworld
