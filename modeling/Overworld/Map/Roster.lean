import Overworld.Map.Event

/-!
# Rosters

The events of a map, in ascending order of their ids, each id once.
-/

namespace Overworld

/-- The events of a map. -/
structure Roster where
  toList : List MapEvent
  ascending : toList.Pairwise fun a b => a.id.toNat < b.id.toNat

namespace Roster

/-- The roster without events. -/
def empty : Roster := ⟨[], .nil⟩

instance : Inhabited Roster := ⟨empty⟩

/-- Puts an event where its id belongs, in place of an event with the same id. -/
def insertInto (e : MapEvent) : List MapEvent → List MapEvent
  | [] => [e]
  | f :: rest =>
    if e.id < f.id then e :: f :: rest
    else if e.id = f.id then e :: rest
    else f :: insertInto e rest

theorem mem_insertInto {e a : MapEvent} {events : List MapEvent} (h : a ∈ insertInto e events) :
    a = e ∨ a ∈ events := by
  induction events with
  | nil => simpa [insertInto] using h
  | cons f rest ih =>
    simp only [insertInto] at h
    split at h
    · simpa using h
    · split at h
      · rcases List.mem_cons.mp h with h | h
        · exact .inl h
        · exact .inr (List.mem_cons_of_mem _ h)
      · rcases List.mem_cons.mp h with h | h
        · exact .inr (h ▸ List.mem_cons_self)
        · rcases ih h with h | h
          · exact .inl h
          · exact .inr (List.mem_cons_of_mem _ h)

theorem ascending_insertInto {e : MapEvent} {events : List MapEvent}
    (h : events.Pairwise fun a b => a.id.toNat < b.id.toNat) :
    (insertInto e events).Pairwise fun a b => a.id.toNat < b.id.toNat := by
  induction events with
  | nil => simp [insertInto]
  | cons f rest ih =>
    obtain ⟨hf, hrest⟩ := List.pairwise_cons.mp h
    simp only [insertInto]
    split
    · rename_i hlt
      have hlt := UInt32.lt_iff_toNat_lt.mp hlt
      refine List.pairwise_cons.mpr ⟨?_, h⟩
      intro a ha
      rcases List.mem_cons.mp ha with rfl | ha
      · exact hlt
      · exact Nat.lt_trans hlt (hf a ha)
    · rename_i hlt
      split
      · rename_i heq
        exact List.pairwise_cons.mpr ⟨fun a ha => heq ▸ hf a ha, hrest⟩
      · rename_i hne
        refine List.pairwise_cons.mpr ⟨?_, ih hrest⟩
        intro a ha
        rcases mem_insertInto ha with rfl | ha
        · have hle : ¬ a.id.toNat < f.id.toNat := fun h => hlt (UInt32.lt_iff_toNat_lt.mpr h)
          have hne : a.id.toNat ≠ f.id.toNat := fun h => hne (UInt32.toNat_inj.mp h)
          omega
        · exact hf a ha

/-- The roster with an event put in. -/
def insert (r : Roster) (e : MapEvent) : Roster :=
  ⟨insertInto e r.toList, ascending_insertInto r.ascending⟩

/-- The roster of these events; of events with the same id the last counts. -/
def ofList (events : List MapEvent) : Roster := events.foldl insert empty

/-- The event with an id. -/
def get? (r : Roster) (id : UInt32) : Option MapEvent := r.toList.find? (·.id = id)

/-- The event with a name; of several the one with the lowest id. -/
def named? (r : Roster) (name : String) : Option MapEvent := r.toList.find? (·.name = name)

/-- The number of events. -/
def size (r : Roster) : Nat := r.toList.length

/-- Changes every event by a function that keeps ids. -/
def map (r : Roster) (f : MapEvent → MapEvent) (h : ∀ e, (f e).id = e.id) : Roster :=
  ⟨r.toList.map f, by
    rw [List.pairwise_map]
    exact r.ascending.imp fun hab => by simpa only [h] using hab⟩

/-- Changes the event with an id. -/
def modify (r : Roster) (id : UInt32) (f : MapEvent → MapEvent) (h : ∀ e, (f e).id = e.id) :
    Roster :=
  r.map (fun e => if e.id = id then f e else e) fun e => by
    by_cases he : e.id = id <;> simp [he, h]

end Roster

end Overworld
