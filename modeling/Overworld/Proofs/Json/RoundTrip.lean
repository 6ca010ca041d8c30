import Mathlib
import Overworld.Json.Shape
import Overworld.Proofs.Json.Kept

/-!
# Shapes that read what was written

A shape inverts a way of writing if it reads what has been written of a value as that value. The
values need not be all of their type: those that any draft can be read as are enough.
-/

namespace Overworld.Json

namespace Shape

variable {α β : Type}

/-- The shape reads what has been written of a valid value as that value, and whatever it reads is
valid. What is written is a value that can be kept. -/
structure Inverts (shape : Shape α) (toJson : α → Json) (valid : α → Prop) : Prop where
  isKept {a : α} (h : valid a) : (toJson a).IsKept
  reads {a : α} (h : valid a) : shape (.ofJson (toJson a)) = .ok a
  valid_of_read {d : Draft} {a : α} (h : shape d = .ok a) : valid a

/-- Of a changed answer that is there, the unchanged one is there. -/
theorem map_eq_ok {f : α → β} {x : Except Defect α} {b : β} :
    x.map f = .ok b ↔ ∃ a, x = .ok a ∧ f a = b := by
  cases x <;> simp [Except.map]

/-- Whole numbers between two bounds are read as written. -/
theorem whole_inverts (low high : Int) :
    Inverts (whole low high) .int fun n => low ≤ n ∧ n ≤ high where
  isKept _ := .num _
  reads h := if_pos h
  valid_of_read {d n} h := by
    unfold whole at h
    split at h
    · split at h
      · cases h
        assumption
      · cases h
    · cases h

/-- Numbers of a type that lies within two bounds are read as written. -/
theorem numbers_inverts (low high : Int) (ofInt : Int → α) (toInt : α → Int)
    (hbounds : ∀ a, low ≤ toInt a ∧ toInt a ≤ high) (hinverse : ∀ a, ofInt (toInt a) = a) :
    Inverts (fun d => (whole low high d).map ofInt) (fun a => .int (toInt a)) fun _ => True where
  isKept _ := .num _
  reads {a} _ := by
    simp only [(whole_inverts low high).reads (hbounds a), Except.map, hinverse]
  valid_of_read _ := trivial

/-- Bytes are read as written. -/
theorem uint8_inverts : Inverts uint8 (fun n => .nat n.toNat) fun _ => True :=
  numbers_inverts 0 255 (fun n => UInt8.ofNat n.toNat) (fun n => n.toNat)
    (fun n => by have := n.toNat_lt; omega) fun n => by simp

/-- Whole numbers of 16 bits are read as written. -/
theorem uint16_inverts : Inverts uint16 (fun n => .nat n.toNat) fun _ => True :=
  numbers_inverts 0 65535 (fun n => UInt16.ofNat n.toNat) (fun n => n.toNat)
    (fun n => by have := n.toNat_lt; omega) fun n => by simp

/-- Whole numbers of 32 bits are read as written. -/
theorem uint32_inverts : Inverts uint32 (fun n => .nat n.toNat) fun _ => True :=
  numbers_inverts 0 4294967295 (fun n => UInt32.ofNat n.toNat) (fun n => n.toNat)
    (fun n => by have := n.toNat_lt; omega) fun n => by simp

/-- Whole numbers of 32 bits with a sign are read as written. -/
theorem int32_inverts : Inverts int32 (fun n => .int n.toInt) fun _ => True :=
  numbers_inverts (-2147483648) 2147483647 Int32.ofInt Int32.toInt
    (fun n => ⟨n.le_toInt, by have := n.toInt_lt; omega⟩) fun n => by simp

/-- Truth values are read as written. -/
theorem bool_inverts : Inverts bool .bool fun _ => True where
  isKept _ := .bool _
  reads _ := rfl
  valid_of_read _ := trivial

/-- Texts are read as written. -/
theorem text_inverts : Inverts text .str fun _ => True where
  isKept _ := .str _
  reads _ := rfl
  valid_of_read _ := trivial

/-- Any value is read as written. -/
theorem value_inverts : Inverts value id IsKept where
  isKept h := h
  reads h := Draft.keep_ofJson h
  valid_of_read h := Draft.keep_isKept h

variable {shape : Shape α} {toJson : α → Json} {valid : α → Prop}

/-- Lists are read as written if their members are. -/
theorem Inverts.list (h : Inverts shape toJson valid) :
    Inverts (list shape) (fun l => .arr (l.map toJson)) fun l => ∀ a ∈ l, valid a where
  isKept hvalid := .arr fun item hitem => by
    obtain ⟨a, ha, rfl⟩ := List.mem_map.mp hitem
    exact h.isKept (hvalid a ha)
  reads {l} hvalid := by
    have hitems : items shape (Draft.ofJson.ofItems (l.map toJson)) = .ok l := by
      induction l with
      | nil => rfl
      | cons a rest ih =>
        obtain ⟨hfirst, hrest⟩ := List.forall_mem_cons.mp hvalid
        rw [List.map_cons, Draft.ofJson.ofItems, items, h.reads hfirst, ih hrest]
        rfl
    rw [Draft.ofJson, Shape.list, hitems]
    rfl
  valid_of_read {d l} hread := by
    have hitems {parts : List Draft} {l : List α} (hitems : items shape parts = .ok l) :
        ∀ a ∈ l, valid a := by
      induction parts generalizing l with
      | nil =>
        cases hitems
        exact fun _ hnone => absurd hnone List.not_mem_nil
      | cons part rest ih =>
        obtain ⟨a, hfirst, hitems⟩ := bind_eq_ok.mp hitems
        obtain ⟨others, hrest, hitems⟩ := bind_eq_ok.mp hitems
        cases hitems
        exact List.forall_mem_cons.mpr ⟨h.valid_of_read hfirst, ih hrest⟩
    unfold Shape.list at hread
    split at hread
    · obtain ⟨values, hvalues, hread⟩ := bind_eq_ok.mp hread
      obtain ⟨-, -, hread⟩ := bind_eq_ok.mp hread
      cases hread
      exact hitems hvalues
    · cases hread

/-- Lists of any values are read as written. -/
theorem values_inverts : Inverts (list value) .arr fun l => ∀ j ∈ l, j.IsKept := by
  simpa only [List.map_id] using value_inverts.list

/-- A value that may be absent is read as written, if no value is written as null. -/
theorem Inverts.optional (h : Inverts shape toJson valid) (hnull : ∀ a, toJson a ≠ .null) :
    Inverts (optional shape) (.ofOption toJson) fun o => ∀ a ∈ o, valid a where
  isKept {o} hvalid := by
    cases o with
    | none => exact .null
    | some a => exact h.isKept (hvalid a rfl)
  reads {o} hvalid := by
    cases o with
    | none => rfl
    | some a =>
      have hread := h.reads (hvalid a rfl)
      have hsome : Draft.ofJson (toJson a) ≠ .null := by
        cases hwritten : toJson a with
        | null => exact absurd hwritten (hnull a)
        | _ => simp [Draft.ofJson]
      rw [Json.ofOption, Shape.optional, hread]
      · rfl
      · exact hsome
  valid_of_read {d o} hread := by
    unfold Shape.optional at hread
    split at hread
    · cases hread
      exact fun _ hnone => by cases hnone
    · obtain ⟨a, ha, rfl⟩ := map_eq_ok.mp hread
      rintro _ ⟨⟩
      exact h.valid_of_read ha

section

variable {fields : List (Field α)} {blank : α}

/-- A field that is named for the first time is read as written. -/
theorem Inverts.fieldsByName {shape : Shape β} {toJson : β → Json} {valid : β → Prop}
    (h : Inverts shape toJson valid) {b : β} (hb : valid b) {name : String} {required : Bool}
    {set : α → β → α} {rest : List (String × Json)} {a : α} {seen : List String}
    (hfield : fields.find? (·.name = name) = some (.of name required shape set))
    (hseen : name ∉ seen) :
    fieldsByName fields a seen (Draft.ofJson.ofFields ((name, toJson b) :: rest)) =
      fieldsByName fields (set a b) (name :: seen) (Draft.ofJson.ofFields rest) := by
  rw [Draft.ofJson.ofFields, Shape.fieldsByName]
  simp only [Draft.key, bind, Except.bind, hfield, if_neg hseen, Field.of, h.reads hb, Except.map]

/-- A record is read from parts that are put into it one after the other, if none is missing. -/
theorem record_reads {parts : List (String × Json)} {a : α} (seen : List String)
    (hparts : fieldsByName fields blank [] (Draft.ofJson.ofFields parts) = .ok (a, seen))
    (hall : (fields.all fun field => !field.required || seen.contains field.name) = true) :
    record blank fields (.ofJson (.obj parts)) = .ok a := by
  rw [Draft.ofJson, record, hparts]
  simp only [bind, Except.bind, Ending.check, hall, if_true]

/-- Putting the field into a record keeps this. -/
def Field.Keeps (field : Field α) (P : α → Prop) : Prop :=
  ∀ ⦃d : Draft⦄ ⦃a a' : α⦄, field.put d a = .ok a' → P a → P a'

/-- A field that a shape reads keeps what the values that are read keep. -/
theorem Field.keeps_of {name : String} {required : Bool} {shape : Shape β} {set : α → β → α}
    {P : α → Prop} (h : ∀ {d : Draft} {b : β} {a : α}, shape d = .ok b → P a → P (set a b)) :
    (Field.of name required shape set).Keeps P := by
  intro d a a' hput ha
  obtain ⟨b, hb, rfl⟩ := map_eq_ok.mp hput
  exact h hb ha

/-- What every field keeps, holds of a record that is read. -/
theorem record_induction {P : α → Prop} (hblank : P blank) (hput : ∀ field ∈ fields, field.Keeps P)
    {d : Draft} {a : α} (h : record blank fields d = .ok a) : P a := by
  have hnames {parts : List (Draft × Draft)} {b a : α} {before seen : List String}
      (hb : P b) (h : fieldsByName fields b before parts = .ok (a, seen)) : P a := by
    induction parts generalizing b before with
    | nil =>
      cases h
      exact hb
    | cons part rest ih =>
      obtain ⟨name, -, h⟩ := bind_eq_ok.mp h
      cases hfield : fields.find? (·.name = name) with
      | none =>
        simp only [hfield] at h
        obtain ⟨-, -, h⟩ := bind_eq_ok.mp h
        exact ih hb h
      | some field =>
        simp only [hfield] at h
        split at h
        · cases h
        · obtain ⟨b', hb', h⟩ := bind_eq_ok.mp h
          exact ih (hput field (List.mem_of_find?_eq_some hfield) hb' hb) h
  have hplaces {ending : Ending} {others : List (Field α)} {parts : List Draft} {b a : α}
      (hothers : ∀ field ∈ others, field ∈ fields) (hb : P b)
      (h : fieldsByPlace b ending others parts = .ok a) : P a := by
    induction others generalizing parts b with
    | nil =>
      cases parts with
      | nil =>
        obtain ⟨-, -, h⟩ := bind_eq_ok.mp h
        cases h
        exact hb
      | cons => cases h
    | cons field rest ih =>
      obtain ⟨hfield, hrest⟩ := List.forall_mem_cons.mp hothers
      cases parts with
      | nil =>
        obtain ⟨-, -, h⟩ := bind_eq_ok.mp h
        split at h
        · cases h
        · exact ih hrest hb h
      | cons part parts =>
        obtain ⟨b', hb', h⟩ := bind_eq_ok.mp h
        exact ih hrest (hput field hfield hb' hb) h
  unfold record at h
  split at h
  · obtain ⟨⟨read, seen⟩, hread, h⟩ := bind_eq_ok.mp h
    obtain ⟨-, -, h⟩ := bind_eq_ok.mp h
    split at h
    · cases h
      exact hnames hblank hread
    · cases h
  · exact hplaces (fun _ hfield => hfield) hblank h
  · cases h

end

end Shape

/-- Writing and reading go around. What is written of a valid value can be kept and is read as that
value, and a value that has been read, from whatever, is read again from what is written of it. -/
structure RoundTrips {α : Type} (shape : Shape α) (toJson : α → Json) (valid : α → Prop) :
    Prop where
  isKept (a : α) (h : valid a) : (toJson a).IsKept
  decode_toJson (a : α) (h : valid a) : decode shape (toJson a) = .ok a
  decode_again (j : Json) (a : α) (h : decode shape j = .ok a) : decode shape (toJson a) = .ok a

/-- A shape that inverts a way of writing goes around with it. -/
theorem Shape.Inverts.roundTrips {α : Type} {shape : Shape α} {toJson : α → Json} {valid : α → Prop}
    (h : shape.Inverts toJson valid) : RoundTrips shape toJson valid := by
  have hdecode {a : α} (ha : valid a) : decode shape (toJson a) = .ok a := by
    rw [decode, h.reads ha]
    rfl
  refine ⟨fun a => h.isKept, fun a => hdecode, fun j a hread => hdecode ?_⟩
  cases hshape : shape (.ofJson j) with
  | error defect =>
    rw [decode, hshape] at hread
    cases hread
  | ok b =>
    rw [decode, hshape] at hread
    cases hread
    exact h.valid_of_read hshape

end Overworld.Json
