import Overworld.Proofs.Map.NamedSwitches

/-!
# Refreshes in a row

A refresh selects the page of an event by the switches of that moment, so a map that has been
refreshed any number of times is the map that would be set up now. An erased event stays erased. How
an event looks may be kept beside it and renewed only when it turns to another page: what is kept
agrees with the active page after any history.
-/

namespace Overworld

/-- How an event looks, and whether it can be walked through. -/
structure EventLook where
  through : Bool
  tile : UInt16
  character : String
  deriving DecidableEq

/-- The look of an event with this active page; without one it shows nothing and is no obstacle. -/
def EventLook.ofPage : Option EventPage → EventLook
  | none => { through := true, tile := 0, character := "" }
  | some page =>
    { through := page.through, tile := page.graphic.tile, character := page.graphic.character }

/-- The look of an event. -/
def MapEvent.look (e : MapEvent) : EventLook :=
  { through := e.through, tile := e.tile, character := e.character }

/-- What may happen to the pages of a map. -/
inductive PageChange where
  | refresh (switches : SelfSwitches)
  | erase (id : UInt32)

/-- A change of the pages of a map, for one of its events. -/
def MapEvent.change (map : UInt32) (e : MapEvent) : PageChange → MapEvent
  | .refresh switches => e.refresh map switches
  | .erase id => if e.id = id then e.erase else e

/-- A map after a change of its pages. -/
def FieldMap.change (m : FieldMap) : PageChange → FieldMap
  | .refresh switches => m.refresh switches
  | .erase id => m.erase id

/-- An event whose look is kept beside it. -/
structure KeptEvent where
  event : MapEvent
  look : EventLook

namespace KeptEvent

/-- The event of a record, which looks like one without a page before any has been selected. -/
def ofRecord (r : EventRecord) : KeptEvent := { event := .ofRecord r, look := .ofPage none }

/-- Turns to a page and takes its look. -/
def turnTo (k : KeptEvent) (page : Option Nat) : KeptEvent :=
  { event := { k.event with page }
    look := .ofPage (page.bind fun index => k.event.pages[index]?) }

/-- Turns to the page that is due if it is another one. -/
def refresh (map : UInt32) (switches : SelfSwitches) (k : KeptEvent) : KeptEvent :=
  if k.event.dueOf map switches ≠ k.event.page then k.turnTo (k.event.dueOf map switches) else k

/-- Removes the event from play. -/
def erase (k : KeptEvent) : KeptEvent :=
  { k with event := { k.event with erased := true } }.turnTo none

/-- A change of the pages of a map, for an event whose look is kept. -/
def change (map : UInt32) (k : KeptEvent) : PageChange → KeptEvent
  | .refresh switches => k.refresh map switches
  | .erase id => if k.event.id = id then k.erase else k

/-- The kept look is the one of the active page. -/
def Agrees (k : KeptEvent) : Prop := k.look = k.event.look

end KeptEvent

/-- Two changes that are the same for an event with this id on this map: refreshes under switches
that agree on its own, or changes that erase it both or neither. -/
inductive PageChange.Alike (map event : UInt32) : PageChange → PageChange → Prop
  | refresh {switches switches' : SelfSwitches}
      (hown : ∀ switch, switches.get ⟨map, some event, switch⟩ =
        switches'.get ⟨map, some event, switch⟩) :
      Alike map event (.refresh switches) (.refresh switches')
  | erase {id id' : UInt32} (hsame : event = id ↔ event = id') :
      Alike map event (.erase id) (.erase id')

namespace MapEvent

variable {map : UInt32} {e : MapEvent}

/-- The look of an event is that of its active page. -/
theorem look_eq (e : MapEvent) : e.look = .ofPage e.activePage? := by
  unfold look through tile character
  cases e.activePage? <;> rfl

/-- A change keeps the id. -/
@[simp] theorem change_id (c : PageChange) : (e.change map c).id = e.id := by
  cases c with
  | refresh switches => rfl
  | erase id =>
    simp only [change]
    split <;> rfl

/-- Nothing changes an erased event. -/
theorem change_erase (c : PageChange) : e.erase.change map c = e.erase := by
  cases c with
  | refresh switches => simp [change, refresh, dueOf, erase]
  | erase id =>
    simp only [change]
    split <;> rfl

/-- Erasing an event leaves nothing of a change before. -/
theorem erase_change (c : PageChange) : (e.change map c).erase = e.erase := by
  cases c with
  | refresh switches => rfl
  | erase id =>
    simp only [change]
    split <;> rfl

/-- An event that has been erased at any time is the event erased, whatever else has happened. -/
theorem foldl_change_erased (before after : List PageChange) (e : MapEvent) :
    (before ++ .erase e.id :: after).foldl (change map) e = e.erase := by
  induction before generalizing e with
  | nil =>
    have hafter : after.foldl (change map) e.erase = e.erase := by
      induction after with
      | nil => rfl
      | cons c rest ih => rw [List.foldl_cons, change_erase, ih]
    simpa [change] using hafter
  | cons c rest ih =>
    have hrest := ih (e.change map c)
    rw [change_id, erase_change] at hrest
    exact hrest

/-- Changes that are the same for an event do the same to it. -/
theorem change_congr {c c' : PageChange} (h : PageChange.Alike map e.id c c') :
    e.change map c = e.change map c' := by
  cases h with
  | refresh hown => exact refresh_congr hown
  | erase hsame => simp only [change, hsame]

/-- Histories that are the same for an event make the same of it. -/
theorem foldl_change_congr {id : UInt32} {history history' : List PageChange}
    (h : List.Forall₂ (PageChange.Alike map id) history history') (hid : e.id = id) :
    history.foldl (change map) e = history'.foldl (change map) e := by
  induction h generalizing e with
  | nil => rfl
  | cons hhead _ ih =>
    rw [List.foldl_cons, List.foldl_cons, change_congr (hid ▸ hhead)]
    exact ih (by rw [change_id, hid])

end MapEvent

namespace KeptEvent

variable {map : UInt32} {k : KeptEvent}

/-- An event that turns to a page takes its look. -/
theorem turnTo_agrees (page : Option Nat) : (k.turnTo page).Agrees := by
  rw [Agrees, MapEvent.look_eq]
  rfl

/-- A change does to an event whose look is kept what it does to the event, and the look still
agrees: where the page stays the same nothing has to be renewed. -/
theorem Agrees.change (h : k.Agrees) (c : PageChange) :
    (k.change map c).event = k.event.change map c ∧ (k.change map c).Agrees := by
  cases c with
  | refresh switches =>
    simp only [KeptEvent.change, refresh]
    split
    · exact ⟨rfl, turnTo_agrees _⟩
    · rename_i hsame
      have hdue : k.event.dueOf map switches = k.event.page := not_not.mp hsame
      refine ⟨?_, h⟩
      rw [MapEvent.change, MapEvent.refresh, hdue]
  | erase id =>
    simp only [KeptEvent.change, MapEvent.change]
    split
    · exact ⟨rfl, turnTo_agrees _⟩
    · exact ⟨rfl, h⟩

/-- The kept look agrees after any history. -/
theorem Agrees.foldl_change (h : k.Agrees) (history : List PageChange) :
    let event := history.foldl (MapEvent.change map) k.event
    history.foldl (KeptEvent.change map) k = { event, look := event.look } := by
  induction history generalizing k with
  | nil =>
    show k = { event := k.event, look := k.event.look }
    rw [← h]
  | cons c rest ih =>
    obtain ⟨hevent, hagrees⟩ : (k.change map c).event = k.event.change map c ∧
        (k.change map c).Agrees := h.change c
    have hrest := ih hagrees
    rw [hevent] at hrest
    exact hrest

end KeptEvent

/-- Putting events into a roster adds no others. -/
theorem Roster.mem_foldl_insert {r : Roster} {events : List MapEvent} {e : MapEvent}
    (h : e ∈ (events.foldl insert r).toList) : e ∈ r.toList ∨ e ∈ events := by
  induction events generalizing r with
  | nil => exact .inl h
  | cons f rest ih =>
    rcases ih h with hinsert | hrest
    · rcases mem_insertInto hinsert with rfl | hold
      · exact .inr List.mem_cons_self
      · exact .inl hold
    · exact .inr (List.mem_cons_of_mem _ hrest)

/-- The events of a roster are among those that it was made of. -/
theorem Roster.mem_ofList {events : List MapEvent} {e : MapEvent} (h : e ∈ (ofList events).toList) :
    e ∈ events :=
  (mem_foldl_insert h).resolve_left List.not_mem_nil

namespace FieldMap

variable {m : FieldMap}

/-- A change keeps the id of the map. -/
@[simp] theorem change_id (c : PageChange) : (m.change c).id = m.id := by cases c <;> rfl

/-- A change is one of each event. -/
theorem change_events (c : PageChange) :
    (m.change c).events = m.events.map (MapEvent.change m.id · c) fun _ => MapEvent.change_id c := by
  cases c <;> rfl

/-- A history of a map is one of each event. -/
theorem foldl_change_toList (history : List PageChange) :
    (history.foldl change m).events.toList =
      m.events.toList.map (history.foldl (MapEvent.change m.id)) := by
  induction history generalizing m with
  | nil => exact (List.map_id _).symm
  | cons c rest ih =>
    rw [List.foldl_cons, ih, change_id, change_events, Roster.map, List.map_map]
    rfl

/-- The event with an id after a history of the map. -/
theorem foldl_change_get? (history : List PageChange) (id : UInt32) :
    (history.foldl change m).events.get? id =
      (m.events.get? id).map (history.foldl (MapEvent.change m.id)) := by
  induction history generalizing m with
  | nil => exact Option.map_id'.symm
  | cons c rest ih =>
    rw [List.foldl_cons, ih, change_id, change_events, Roster.get?_map, Option.map_map]
    rfl

/-- Only the last refresh of a map counts. -/
theorem refresh_refresh (switches switches' : SelfSwitches) :
    (m.refresh switches).refresh switches' = m.refresh switches' := by
  simp only [refresh, Roster.map, List.map_map]
  rfl

/-- A map that is set up and then refreshed is the map set up with the last switches. -/
theorem foldl_refresh_ofRecord (id : UInt32) (r : MapRecord) (tilesets : List Tileset)
    (first : SelfSwitches) (later : List SelfSwitches) :
    later.foldl refresh (ofRecord id r tilesets first) =
      ofRecord id r tilesets (later.getLastD first) := by
  induction later generalizing first with
  | nil => rfl
  | cons switches rest ih =>
    have hset : (ofRecord id r tilesets first).refresh switches = ofRecord id r tilesets switches :=
      refresh_refresh first switches
    rw [List.foldl_cons, hset, ih, List.getLastD_cons]

end FieldMap

/-- **Refreshes agree with a new set-up.** A map that has been set up and then refreshed any number of
times is the map that the last switches set up, and one more refresh under them changes nothing. A
look that is kept beside an event, and renewed only when the event turns to another page, is its look
after any history. An event that is erased at any point of a history has no page, is no obstacle and
shows nothing after it. The state of an event depends on the switches of its own id and map alone. -/
theorem FieldMap.refreshes_agree (id : UInt32) (r : MapRecord) (tilesets : List Tileset)
    (first : SelfSwitches) (later : List SelfSwitches) :
    let setUp := ofRecord id r tilesets
    let last := later.getLastD first
    (later.foldl refresh (setUp first) = setUp last ∧
      (later.foldl refresh (setUp first)).refresh last = later.foldl refresh (setUp first)) ∧
    (∀ history, ∀ e ∈ (history.foldl change (setUp first)).events.toList, ∃ record ∈ r.events,
      (PageChange.refresh first :: history).foldl (KeptEvent.change id) (.ofRecord record) =
        { event := e, look := e.look }) ∧
    (∀ before after event e, (setUp first).events.get? event = some e →
      ∃ erased, ((before ++ .erase event :: after).foldl change (setUp first)).events.get? event =
          some erased ∧
        erased.page = none ∧ erased.through = true ∧ erased.tile = 0 ∧ erased.character = "") ∧
    ∀ event first' history history',
      List.Forall₂ (PageChange.Alike id event) (.refresh first :: history)
        (.refresh first' :: history') →
      (history.foldl change (setUp first)).events.get? event =
        (history'.foldl change (setUp first')).events.get? event := by
  intro setUp last
  -- Setting a map up is a refresh of what has just been read.
  let read : FieldMap :=
    { id
      tileset := (tilesets.find? (·.id = r.tileset)).getD { id := r.tileset }
      ground := TileStore.ofList r.width.toNat r.height.toNat r.tiles
      events := Roster.ofList (r.events.map MapEvent.ofRecord) }
  have hsetUp (switches : SelfSwitches) (history : List PageChange) :
      history.foldl change (setUp switches) =
        (PageChange.refresh switches :: history).foldl change read := rfl
  refine ⟨?_, ?_, ?_, ?_⟩
  · have hlast : later.foldl refresh (setUp first) = setUp last :=
      foldl_refresh_ofRecord id r tilesets first later
    rw [hlast]
    exact ⟨rfl, refresh_refresh last last⟩
  · intro history e he
    rw [hsetUp, foldl_change_toList] at he
    obtain ⟨start, hstart, rfl⟩ := List.mem_map.mp he
    obtain ⟨record, hrecord, rfl⟩ := List.mem_map.mp (Roster.mem_ofList hstart)
    have hagrees : (KeptEvent.ofRecord record).Agrees := rfl
    exact ⟨record, hrecord, hagrees.foldl_change _⟩
  · intro before after event e he
    have hid : e.id = event := Roster.id_of_get? he
    refine ⟨e.erase, ?_, rfl, rfl, rfl, rfl⟩
    rw [foldl_change_get?, he, Option.map_some, ← hid, MapEvent.foldl_change_erased]
  · intro event first' history history' halike
    rw [hsetUp, hsetUp, foldl_change_get?, foldl_change_get?]
    cases hget : read.events.get? event with
    | none => rfl
    | some e =>
      have hid : e.id = event := Roster.id_of_get? hget
      rw [Option.map_some, Option.map_some, MapEvent.foldl_change_congr halike hid]

end Overworld
