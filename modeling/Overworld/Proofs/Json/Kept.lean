import Mathlib
import Overworld.Json.Draft

/-!
# Values that are kept

Not every list of fields is an object: its keys stand in ascending order, and each of them stands
once. What a reader keeps of a draft is always such a value, and a value of this kind is kept as it
is.
-/

namespace Overworld.Json

/-- A value whose objects have their fields in ascending order of their keys, throughout. -/
inductive IsKept : Json → Prop
  | null : IsKept .null
  | bool (b : Bool) : IsKept (.bool b)
  | num (n : Number) : IsKept (.num n)
  | str (s : String) : IsKept (.str s)
  | arr {items : List Json} (hitems : ∀ item ∈ items, IsKept item) : IsKept (.arr items)
  | obj {fields : List (String × Json)} (hkeys : fields.Pairwise (·.1 < ·.1))
      (hvalues : ∀ field ∈ fields, IsKept field.2) : IsKept (.obj fields)

/-- Fields with these keys, in ascending order, make an object. -/
theorem IsKept.of_keys {fields : List (String × Json)} (keys : List String)
    (hkeys : fields.map (·.1) = keys) (hsorted : keys.Pairwise (· < ·))
    (hvalues : ∀ field ∈ fields, field.2.IsKept) : (Json.obj fields).IsKept :=
  .obj (List.pairwise_map.mp (hkeys ▸ hsorted)) hvalues

/-- Of two computations in a row that succeed, both do. -/
theorem bind_eq_ok {α β : Type} {x : Except Defect α} {f : α → Except Defect β} {b : β} :
    (x >>= f) = .ok b ↔ ∃ a, x = .ok a ∧ f a = .ok b := by
  cases x with
  | error defect => simp [bind, Except.bind]
  | ok a => simp [bind, Except.bind]

/-- A field behind all others is put at the end. -/
theorem insertField_last {fields : List (String × Json)} {key : String} (value : Json)
    (h : ∀ field ∈ fields, field.1 < key) :
    insertField key value fields = fields ++ [(key, value)] := by
  induction fields with
  | nil => rfl
  | cons field rest ih =>
    obtain ⟨hfirst, hrest⟩ := List.forall_mem_cons.mp h
    rw [insertField, if_neg (lt_asymm hfirst), if_neg (ne_of_gt hfirst), ih hrest, List.cons_append]

/-- A field is put among the others, in the place of one with the same key. -/
theorem mem_insertField {fields : List (String × Json)} {key : String} {value : Json}
    {field : String × Json} (h : field ∈ insertField key value fields) :
    field = (key, value) ∨ field ∈ fields := by
  induction fields with
  | nil => exact .inl (List.mem_singleton.mp h)
  | cons first rest ih =>
    rw [insertField] at h
    split at h
    · exact List.mem_cons.mp h
    · split at h
      · exact (List.mem_cons.mp h).imp id (List.mem_cons_of_mem _)
      · rcases List.mem_cons.mp h with rfl | h
        · exact .inr List.mem_cons_self
        · exact (ih h).imp id (List.mem_cons_of_mem _)

/-- The keys stay in ascending order when a field is put in its place. -/
theorem insertField_pairwise {fields : List (String × Json)} (key : String) (value : Json)
    (h : fields.Pairwise (·.1 < ·.1)) : (insertField key value fields).Pairwise (·.1 < ·.1) := by
  induction fields with
  | nil => exact List.pairwise_singleton ..
  | cons first rest ih =>
    obtain ⟨hfirst, hrest⟩ := List.pairwise_cons.mp h
    rw [insertField]
    split
    case isTrue hbefore =>
      exact List.pairwise_cons.mpr ⟨fun field hfield => (List.mem_cons.mp hfield).elim
        (fun hsame => hsame ▸ hbefore) fun hlater => lt_trans hbefore (hfirst field hlater), h⟩
    case isFalse hbefore =>
      split
      case isTrue hsame => exact List.pairwise_cons.mpr ⟨hsame ▸ hfirst, hrest⟩
      case isFalse hother =>
        have hbehind : first.1 < key := lt_of_le_of_ne (not_lt.mp hbefore) (Ne.symm hother)
        refine List.pairwise_cons.mpr ⟨fun field hfield => ?_, ih hrest⟩
        rcases mem_insertField hfield with rfl | hlater
        · exact hbehind
        · exact hfirst field hlater

namespace Draft

/-- Items that are kept as they are, are kept as they are one after the other. -/
theorem keepItems_ofItems {items : List Json} (h : ∀ item ∈ items, (ofJson item).keep = .ok item) :
    keep.keepItems (ofJson.ofItems items) = .ok items := by
  induction items with
  | nil => rfl
  | cons item rest ih =>
    obtain ⟨hfirst, hrest⟩ := List.forall_mem_cons.mp h
    rw [ofJson.ofItems, keep.keepItems, hfirst, ih hrest]
    rfl

/-- Fields in ascending order whose values are kept as they are, are kept as they are one after the
other. -/
theorem keepFields_ofFields {fields : List (String × Json)} (before : List (String × Json))
    (hkeys : (before ++ fields).Pairwise (·.1 < ·.1))
    (h : ∀ field ∈ fields, (ofJson field.2).keep = .ok field.2) :
    keep.keepFields before (ofJson.ofFields fields) = .ok (before ++ fields) := by
  induction fields generalizing before with
  | nil => rw [ofJson.ofFields, keep.keepFields, List.append_nil]
  | cons field rest ih =>
    obtain ⟨hfirst, hrest⟩ := List.forall_mem_cons.mp h
    have hlast : ∀ other ∈ before, other.1 < field.1 := fun other hother =>
      (List.pairwise_append.mp hkeys).2.2 other hother field List.mem_cons_self
    rw [List.append_cons] at hkeys ⊢
    rw [ofJson.ofFields, keep.keepFields, hfirst, ← ih _ hkeys hrest, ← insertField_last _ hlast]
    rfl

/-- A value is kept as it is. -/
theorem keep_ofJson {j : Json} (h : j.IsKept) : (ofJson j).keep = .ok j := by
  induction h with
  | null | bool | num | str => rfl
  | arr _ ih =>
    rw [ofJson, keep, if_neg Bool.false_ne_true, keepItems_ofItems ih]
    rfl
  | @obj fields hkeys _ ih =>
    rw [ofJson, keep, if_neg Bool.false_ne_true, keepFields_ofFields [] hkeys ih]
    rfl

mutual

/-- Whatever is kept of a draft is a value. -/
theorem keep_isKept {j : Json} : ∀ {d : Draft}, d.keep = .ok j → j.IsKept
  | .null, h => by cases h; exact .null
  | .bool b, h => by cases h; exact .bool b
  | .num kept, h => by
    cases kept with
    | error defect => cases h
    | ok n => cases h; exact .num n
  | .str kept, h => by
    cases kept with
    | error defect => cases h
    | ok s => cases h; exact .str s
  | .arr deep items ending, h => by
    rw [keep] at h
    split at h
    · cases h
    · obtain ⟨values, hitems, h⟩ := bind_eq_ok.mp h
      obtain ⟨-, -, h⟩ := bind_eq_ok.mp h
      cases h
      exact .arr (keepItems_isKept hitems)
  | .obj deep fields ending, h => by
    rw [keep] at h
    split at h
    · cases h
    · obtain ⟨kept, hfields, h⟩ := bind_eq_ok.mp h
      obtain ⟨-, -, h⟩ := bind_eq_ok.mp h
      cases h
      exact keepFields_isKept (.obj .nil fun _ hnone => absurd hnone List.not_mem_nil) hfields
  | .cut _, h => by cases h
  | .broken kept _, h => by cases h

/-- Whatever is kept of the items of a draft are values. -/
theorem keepItems_isKept {values : List Json} :
    ∀ {items : List Draft}, keep.keepItems items = .ok values → ∀ v ∈ values, v.IsKept
  | [], h => by
    cases h
    exact fun _ hnone => absurd hnone List.not_mem_nil
  | item :: rest, h => by
    obtain ⟨first, hfirst, h⟩ := bind_eq_ok.mp h
    obtain ⟨others, hothers, h⟩ := bind_eq_ok.mp h
    cases h
    exact List.forall_mem_cons.mpr ⟨keep_isKept hfirst, keepItems_isKept hothers⟩

/-- Whatever is kept of the fields of a draft makes an object. -/
theorem keepFields_isKept {before kept : List (String × Json)}
    (hbefore : (Json.obj before).IsKept) :
    ∀ {fields : List (Draft × Draft)}, keep.keepFields before fields = .ok kept →
      (Json.obj kept).IsKept
  | [], h => by
    cases h
    exact hbefore
  | (name, value) :: rest, h => by
    obtain ⟨key, -, h⟩ := bind_eq_ok.mp h
    obtain ⟨v, hvalue, h⟩ := bind_eq_ok.mp h
    refine keepFields_isKept ?_ h
    cases hbefore with
    | obj hkeys hvalues =>
      refine .obj (insertField_pairwise key v hkeys) fun field hfield => ?_
      rcases mem_insertField hfield with rfl | hfield
      · exact keep_isKept hvalue
      · exact hvalues field hfield

end

end Draft

end Overworld.Json
