import Overworld.Interpreter.World
import Overworld.Proofs.Interpreter.Owners
import Overworld.Proofs.Map.Pages

/-!
# Switches of events with a name

A script or a host may set a self switch of another event, which it names. Names need not be unique
and need not be known: a name stands for the event with the lowest id that bears it, and the switch
of a name that no event bears belongs to no event. Reading goes by the same way as writing, but the
pages of an event read its switches by its own id. A write reaches the event that the name stands
for in both ways, and no other event in either.
-/

namespace Overworld

/-- An event of a map bears a name. -/
def FieldMap.Bears (m : FieldMap) (name : String) : Prop := ∃ e ∈ m.events.toList, e.name = name

/-- The lowest id of the events of a map that bear a name. -/
def FieldMap.LowestNamed (m : FieldMap) (name : String) (id : UInt32) : Prop :=
  (∃ e ∈ m.events.toList, e.name = name ∧ e.id = id) ∧
    ∀ e ∈ m.events.toList, e.name = name → id ≤ e.id

/-- Two names that stand for the same event, or that no event bears. -/
def FieldMap.ResolveAlike (m : FieldMap) (name name' : String) : Prop :=
  (∃ id, m.LowestNamed name id ∧ m.LowestNamed name' id) ∨ (¬ m.Bears name ∧ ¬ m.Bears name')

/-- The search for a name finds the event with the lowest id of those that bear it. -/
theorem Roster.named?_lowest {r : Roster} {name : String} {e : MapEvent}
    (h : r.named? name = some e) :
    e ∈ r.toList ∧ e.name = name ∧ ∀ f ∈ r.toList, f.name = name → e.id ≤ f.id := by
  obtain ⟨hname, before, behind, hlist, hnone⟩ := List.find?_eq_some_iff_append.mp h
  have hmem : e ∈ r.toList := by rw [hlist]; simp
  have hascending := r.ascending
  rw [hlist] at hascending
  have hbehind : ∀ f ∈ behind, e.id.toNat < f.id.toNat :=
    (List.pairwise_cons.mp (List.pairwise_append.mp hascending).2.1).1
  refine ⟨hmem, of_decide_eq_true hname, fun f hf hfname => ?_⟩
  rw [hlist, List.mem_append, List.mem_cons] at hf
  rw [UInt32.le_iff_toNat_le]
  rcases hf with hf | rfl | hf
  · have hother : ¬ f.name = name := by simpa using hnone f hf
    exact absurd hfname hother
  · exact Nat.le_refl _
  · exact Nat.le_of_lt (hbehind f hf)

/-- The search for a name finds nothing exactly if no event bears it. -/
theorem Roster.named?_eq_none_iff {r : Roster} {name : String} :
    r.named? name = none ↔ ∀ e ∈ r.toList, e.name ≠ name := by
  simp [Roster.named?]

namespace World

variable {w : World} {name name' : String} {id : UInt32}

/-- A name stands for the event with the lowest id that bears it. -/
theorem eventNamed?_eq_some_iff : w.eventNamed? name = some id ↔ w.map.LowestNamed name id := by
  unfold eventNamed?
  constructor
  · intro h
    obtain ⟨e, he, rfl⟩ := Option.map_eq_some_iff.mp h
    obtain ⟨hmem, hname, hlowest⟩ := Roster.named?_lowest he
    exact ⟨⟨e, hmem, hname, rfl⟩, hlowest⟩
  · rintro ⟨⟨e, hmem, hname, rfl⟩, hlowest⟩
    cases hfound : w.map.events.named? name with
    | none => exact absurd hname (Roster.named?_eq_none_iff.mp hfound e hmem)
    | some f =>
      obtain ⟨hf, hfname, hflowest⟩ := Roster.named?_lowest hfound
      have hid : f.id = e.id := UInt32.le_antisymm (hflowest e hmem hname) (hlowest f hf hfname)
      rw [Option.map_some, hid]

/-- A name that no event bears stands for nothing. -/
theorem eventNamed?_eq_none_iff : w.eventNamed? name = none ↔ ¬ w.map.Bears name := by
  simp [eventNamed?, Roster.named?_eq_none_iff, FieldMap.Bears]

/-- Two names stand for the same exactly if they resolve alike. -/
theorem eventNamed?_eq_iff :
    w.eventNamed? name' = w.eventNamed? name ↔ w.map.ResolveAlike name name' := by
  constructor
  · intro hsame
    cases hname : w.eventNamed? name with
    | none =>
      rw [hname] at hsame
      exact .inr ⟨eventNamed?_eq_none_iff.mp hname, eventNamed?_eq_none_iff.mp hsame⟩
    | some id =>
      rw [hname] at hsame
      exact .inl ⟨id, eventNamed?_eq_some_iff.mp hname, eventNamed?_eq_some_iff.mp hsame⟩
  · rintro (⟨id, hname, hname'⟩ | ⟨hname, hname'⟩)
    · rw [eventNamed?_eq_some_iff.mpr hname, eventNamed?_eq_some_iff.mpr hname']
    · rw [eventNamed?_eq_none_iff.mpr hname, eventNamed?_eq_none_iff.mpr hname']

/-- A write by name sets one switch. -/
theorem get_setSwitchOf (w : World) (name switch : String) (value : Bool) (key : SwitchKey) :
    (w.setSwitchOf name switch value).switches.get key =
      if key = w.switchKey (w.eventNamed? name) switch then value else w.switches.get key :=
  SelfSwitches.get_set ..

/-- What a read by name gives after a write by name. -/
theorem switchOf_setSwitchOf (w : World) (name name' switch switch' : String) (value : Bool) :
    (w.setSwitchOf name switch value).switchOf name' switch' =
      if w.eventNamed? name' = w.eventNamed? name ∧ switch' = switch then value
      else w.switchOf name' switch' := by
  have hread : (w.setSwitchOf name switch value).switchOf name' switch' =
      (w.setSwitchOf name switch value).switches.get
        (w.switchKey (w.eventNamed? name') switch') := rfl
  rw [hread, get_setSwitchOf]
  simp only [switchKey, SwitchKey.mk.injEq, true_and]
  rfl

end World

section

variable {switches switches' : SelfSwitches}

/-- A refresh reads only the switches of an event's own id. -/
theorem MapEvent.refresh_congr {map : UInt32} {e : MapEvent}
    (h : ∀ switch, switches.get ⟨map, some e.id, switch⟩ = switches'.get ⟨map, some e.id, switch⟩) :
    e.refresh map switches = e.refresh map switches' := by
  have hmeets : MapEvent.meets map e.id switches = MapEvent.meets map e.id switches' := by
    funext page
    unfold MapEvent.meets
    cases page.condition.selfSwitch with
    | none => rfl
    | some switch => exact h switch
  simp only [MapEvent.refresh, MapEvent.dueOf, hmeets]

/-- Changing every event changes the one with an id. -/
theorem Roster.get?_map (r : Roster) (f : MapEvent → MapEvent) (h : ∀ e, (f e).id = e.id)
    (id : UInt32) : (r.map f h).get? id = (r.get? id).map f := by
  have hsearch : (fun e : MapEvent => decide (e.id = id)) ∘ f = fun e => decide (e.id = id) := by
    funext e
    rw [Function.comp_apply, h]
  rw [Roster.get?, Roster.map, List.find?_map, hsearch]
  rfl

/-- A refresh does to the event with an id what it does to an event. -/
theorem FieldMap.get?_refresh (m : FieldMap) (switches : SelfSwitches) (id : UInt32) :
    (m.refresh switches).events.get? id = (m.events.get? id).map (MapEvent.refresh m.id switches) :=
  m.events.get?_map (MapEvent.refresh m.id switches) (fun _ => rfl) id

/-- A refresh that does the same to every event is the same. -/
theorem FieldMap.refresh_congr {m : FieldMap}
    (h : ∀ e ∈ m.events.toList, e.refresh m.id switches = e.refresh m.id switches') :
    m.refresh switches = m.refresh switches' := by
  have hevents : m.events.toList.map (MapEvent.refresh m.id switches) =
      m.events.toList.map (MapEvent.refresh m.id switches') := List.map_congr_left h
  simp only [FieldMap.refresh, Roster.map, hevents]

end

namespace World

section

variable (w : World) (name switch : String) (value : Bool)

/-- A write by name changes nothing that a refresh makes of an event that the name does not stand
for, or of an event of another map. -/
theorem refresh_setSwitchOf {map : UInt32} {e : MapEvent}
    (h : ¬ (map = w.map.id ∧ w.eventNamed? name = some e.id)) :
    e.refresh map (w.setSwitchOf name switch value).switches = e.refresh map w.switches := by
  apply MapEvent.refresh_congr
  intro read
  have hother : ¬ (⟨map, some e.id, read⟩ : SwitchKey) = w.switchKey (w.eventNamed? name) switch := by
    intro hkey
    obtain ⟨hmap, hevent, -⟩ := SwitchKey.mk.inj hkey
    exact h ⟨hmap, hevent.symm⟩
  rw [get_setSwitchOf, if_neg hother]

/-- A write by name asks for a refresh, and that is all it does to the map. -/
theorem refreshIfNeeded_setSwitchOf (switches : SelfSwitches) :
    (w.setSwitchOf name switch value).map.refreshIfNeeded switches = w.map.refresh switches := rfl

/-- The pages of the event that a name stands for read what has been written by that name. -/
theorem holds_setSwitchOf {id : UInt32} {page : EventPage} (hid : w.eventNamed? name = some id)
    (hpage : page.condition.selfSwitch = some switch) :
    page.Holds w.map.id id (w.setSwitchOf name switch value).switches ↔ value = true := by
  have hget : (w.setSwitchOf name switch value).switches.get ⟨w.map.id, some id, switch⟩ = value := by
    rw [get_setSwitchOf, hid]
    exact if_pos rfl
  unfold EventPage.Holds
  constructor
  · intro hholds
    rw [← hget]
    exact hholds switch hpage
  · intro hvalue read hread
    obtain rfl : switch = read := Option.some.inj (hpage.symm.trans hread)
    rw [hget, hvalue]

end

/-- **A write by name reaches one event.** Reading the same switch by any name that resolves like
the one written to gives the value; reading another switch, or by any other name, gives what it gave
before. The pages of the event with the lowest id that bears the name, and that depend on the
switch, hold exactly if the value is true. The refresh that follows makes of every other event what
it would have made of it without the write, so it does the same to the whole map if no event bears
the name. No refresh of a map with another id is any different. -/
theorem setSwitchOf_reaches_one (w : World) (name switch : String) (value : Bool) :
    let w' := w.setSwitchOf name switch value
    let refreshed := w'.map.refreshIfNeeded w'.switches
    let without := w.map.refresh w.switches
    (∀ name' switch', switch' = switch ∧ w.map.ResolveAlike name name' →
      w'.switchOf name' switch' = value) ∧
    (∀ name' switch', ¬ (switch' = switch ∧ w.map.ResolveAlike name name') →
      w'.switchOf name' switch' = w.switchOf name' switch') ∧
    (∀ id, w.map.LowestNamed name id → ∀ page : EventPage,
      page.condition.selfSwitch = some switch →
        (page.Holds w.map.id id w'.switches ↔ value = true)) ∧
    (∀ id, ¬ w.map.LowestNamed name id →
      refreshed.events.get? id = without.events.get? id) ∧
    (¬ w.map.Bears name → refreshed = without) ∧
    (∀ m : FieldMap, m.id ≠ w.map.id → m.refresh w'.switches = m.refresh w.switches) := by
  intro w' refreshed without
  have hread := w.switchOf_setSwitchOf name
  have hrefreshed : refreshed = w.map.refresh w'.switches :=
    w.refreshIfNeeded_setSwitchOf name switch value w'.switches
  refine ⟨?_, ?_, ?_, ?_, ?_, ?_⟩
  · rintro name' switch' ⟨hswitch, halike⟩
    rw [hread, if_pos ⟨eventNamed?_eq_iff.mpr halike, hswitch⟩]
  · intro name' switch' hnot
    have hother : ¬ (w.eventNamed? name' = w.eventNamed? name ∧ switch' = switch) :=
      fun h => hnot ⟨h.2, eventNamed?_eq_iff.mp h.1⟩
    rw [hread, if_neg hother]
  · intro id hid page hpage
    exact w.holds_setSwitchOf name switch value (eventNamed?_eq_some_iff.mpr hid) hpage
  · intro id hid
    rw [hrefreshed, FieldMap.get?_refresh, FieldMap.get?_refresh]
    cases hget : w.map.events.get? id with
    | none => rfl
    | some e =>
      have heid : e.id = id := Roster.id_of_get? hget
      have hother : ¬ (w.map.id = w.map.id ∧ w.eventNamed? name = some e.id) :=
        fun h => hid (heid ▸ eventNamed?_eq_some_iff.mp h.2)
      rw [Option.map_some, Option.map_some, w.refresh_setSwitchOf name switch value hother]
  · intro hunknown
    rw [hrefreshed]
    apply FieldMap.refresh_congr
    intro e _
    have hnone : w.eventNamed? name = none := eventNamed?_eq_none_iff.mpr hunknown
    exact w.refresh_setSwitchOf name switch value (by simp [hnone])
  · intro m hm
    apply FieldMap.refresh_congr
    intro e _
    exact w.refresh_setSwitchOf name switch value fun h => hm h.1

/-- Of two doors the one with the lower id opens, and a write to a name that no event bears is read
back by any other such name. -/
example :
    let closed : EventPage := { list := [] }
    let opened : EventPage := { closed with condition := { selfSwitch := some "A" } }
    let door (id : UInt32) : MapEvent :=
      { id, name := "door", x := 0, y := 0, pages := [closed, opened] }
    let w : World := { map := { id := 3, events := .ofList [door 7, door 5] }, tables := {} }
    let w' := (w.setSwitchOf "door" "A" true).setSwitchOf "ghost" "B" true
    (w'.map.refreshIfNeeded w'.switches).events.toList.map (fun e => (e.id, e.page)) =
        [(5, some 1), (7, some 0)] ∧
      w'.switchOf "shade" "B" = true := by
  exact ⟨rfl, rfl⟩

end World

end Overworld
