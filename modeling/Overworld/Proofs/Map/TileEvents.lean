import Overworld.Map.FieldMap

/-!
# Events that show tiles

A place of a map is left under the first verdict that decides: the obstacles standing there are
asked before the layers. Every obstacle is asked about the tile that it shows, also one that shows
none and so passes for tile 0. Events without a tile can be taken off the map unless one of them is
the first to decide; then tile 0 has the last word over walls and open ground alike.
-/

namespace Overworld

/-- The events of a roster that have a property. -/
def Roster.filter (r : Roster) (p : MapEvent → Bool) : Roster :=
  ⟨r.toList.filter p, r.ascending.filter p⟩

namespace FieldMap

/-- The map without the events that show no tile. -/
def onlyTileEvents (m : FieldMap) : FieldMap := { m with events := m.events.filter (·.tile != 0) }

/-- The obstacles on a place other than the event `self`, in the order in which they are asked. -/
def obstacles (m : FieldMap) (x y : Int) (self : Option UInt32) : List MapEvent :=
  m.events.toList.filter fun e => some e.id != self && e.isAt x y && !e.through

/-- The first obstacle on a place whose tile decides whether the place can be left. -/
def decidingEvent? (m : FieldMap) (x y : Int) (d : Direction) (self : Option UInt32) :
    Option MapEvent :=
  (m.obstacles x y self).find? fun e => m.tileset.verdict d e.tile != .undecided

/-- What the layers of a place say, top layer first. -/
def layerVerdicts (m : FieldMap) (x y : Int) (d : Direction) : List TileVerdict :=
  [2, 1, 0].map fun layer => (m.ground.get? x y layer).elim .blocked (m.tileset.verdict d)

end FieldMap

/-- A verdict that decides is the last one to be asked for. -/
theorem TileVerdict.settle_cons_of_ne {v : TileVerdict} (hv : v ≠ .undecided)
    (others : List TileVerdict) : settle (v :: others) = (v == .free) := by
  cases v with
  | blocked => rfl
  | free => rfl
  | undecided => exact absurd rfl hv

/-- The verdicts on some things, ahead of others, settle a question by the first thing that decides
it; if there is none the others settle it. -/
theorem TileVerdict.settle_map_append {α : Type} (f : α → TileVerdict) (things : List α)
    (others : List TileVerdict) :
    settle (things.map f ++ others) =
      (things.find? fun a => f a != .undecided).elim (settle others) fun a => f a == .free := by
  induction things with
  | nil => rfl
  | cons a rest ih =>
    rw [List.map_cons, List.cons_append]
    by_cases hverdict : f a = .undecided
    · rw [List.find?_cons_of_neg (by simp [hverdict]), ← ih, hverdict]
      rfl
    · rw [List.find?_cons_of_pos (by simp [hverdict]), settle_cons_of_ne hverdict]
      rfl

namespace FieldMap

variable {m : FieldMap} {x y : Int} {d : Direction} {self : Option UInt32}

/-- The obstacles on a place are asked before its layers. -/
theorem passable_eq (m : FieldMap) (x y : Int) (d : Direction) (self : Option UInt32) :
    m.passable x y d self = (m.valid x y &&
      (m.decidingEvent? x y d self).elim (TileVerdict.settle (m.layerVerdicts x y d)) fun e =>
        m.tileset.verdict d e.tile == .free) := by
  rw [decidingEvent?, layerVerdicts, ← TileVerdict.settle_map_append fun e : MapEvent =>
    m.tileset.verdict d e.tile]
  simp only [passable, consulted, obstacles, List.map_append, List.map_map, Function.comp_def,
    Option.elim_some]

/-- Taking the events without a tile off a map takes them from the obstacles of every place. -/
theorem obstacles_onlyTileEvents :
    m.onlyTileEvents.obstacles x y self = (m.obstacles x y self).filter (·.tile != 0) := by
  simp only [obstacles, onlyTileEvents, Roster.filter, List.filter_filter, Bool.and_comm]

/-- If an event with a tile decides about a place it still does so without the others, and if no
event decides then none does without them. -/
theorem decidingEvent?_onlyTileEvents
    (hdecides : ∀ e, m.decidingEvent? x y d self = some e → e.tile ≠ 0) :
    m.onlyTileEvents.decidingEvent? x y d self = m.decidingEvent? x y d self := by
  have hsearch : m.onlyTileEvents.decidingEvent? x y d self =
      ((m.obstacles x y self).filter (·.tile != 0)).find? fun e =>
        m.tileset.verdict d e.tile != .undecided := by
    rw [← obstacles_onlyTileEvents]
    rfl
  rw [hsearch, List.find?_filter]
  cases hdeciding : m.decidingEvent? x y d self with
  | none =>
    refine List.find?_eq_none.mpr fun e he => ?_
    have hundecided := List.find?_eq_none.mp hdeciding e he
    rw [Bool.not_eq_true, bne_eq_false_iff_eq] at hundecided
    simp [hundecided]
  | some e =>
    have htile := hdecides e hdeciding
    obtain ⟨hverdict, ahead, behind, hplace, hahead⟩ := List.find?_eq_some_iff_append.mp hdeciding
    refine List.find?_eq_some_iff_append.mpr ⟨?_, ahead, behind, hplace, fun a ha => ?_⟩
    · simpa [htile] using hverdict
    · have hundecided := hahead a ha
      simp only [Bool.not_eq_true', bne_eq_false_iff_eq] at hundecided
      simp [hundecided]

/-- Where an event without a tile decides, tile 0 has the last word: neither the tiles of the layers
nor other events matter any more. -/
theorem passable_of_deciding_blank {e : MapEvent}
    (hdeciding : m.decidingEvent? x y d self = some e) (hblank : e.tile = 0) :
    m.passable x y d self = (m.valid x y && m.tileset.verdict d 0 == .free) := by
  rw [passable_eq, hdeciding, Option.elim_some, hblank]

/-- **Only events that show a tile take part in leaving a place**, unless one without a tile is the
first to decide: taking all events that show no tile off the map changes nothing about it. -/
theorem passable_onlyTileEvents (m : FieldMap) (x y : Int) (d : Direction) (self : Option UInt32)
    (hdecides : ∀ e, m.decidingEvent? x y d self = some e → e.tile ≠ 0) :
    m.onlyTileEvents.passable x y d self = m.passable x y d self := by
  rw [passable_eq, passable_eq m, decidingEvent?_onlyTileEvents hdecides]
  rfl

/-- A character without a tile. -/
private def sentry : MapEvent :=
  { id := 2, name := "Sentry", x := 0, y := 0, page := some 0
    pages := [{ graphic := { character := "guard" } }] }

/-- A boulder that can only be left upwards and sideways. -/
private def boulder : MapEvent :=
  { id := 1, name := "Boulder", x := 0, y := 0, page := some 0
    pages := [{ graphic := { tile := 2 } }] }

/-- A map of one tile, which is a cliff on its top layer, with these events. -/
private def cliff (events : List MapEvent) : FieldMap :=
  { tileset := { id := 1, passages := [0, 15, 1] }
    ground := .ofList 1 1 [0, 0, 1]
    events := .ofList events }

/-- A sentry on a boulder has no say about leaving it: the boulder has decided before. -/
theorem boulder_onlyTileEvents :
    let m := cliff [boulder, sentry]
    (∀ d e, m.decidingEvent? 0 0 d none = some e → e.tile ≠ 0) ∧
      (∀ d, m.onlyTileEvents.passable 0 0 d none = m.passable 0 0 d none) ∧
      m.passable 0 0 .down none = false ∧ m.passable 0 0 .up none = true := by
  intro m
  have hdecides : ∀ d e, m.decidingEvent? 0 0 d none = some e → e.tile ≠ 0 := by
    intro d e he
    have hshown : (m.decidingEvent? 0 0 d none).all (·.tile != 0) = true := by cases d <;> decide
    rw [he] at hshown
    exact bne_iff_ne.mp hshown
  exact ⟨hdecides, fun d => passable_onlyTileEvents m 0 0 d none (hdecides d), by decide, by decide⟩

/-- A sentry on a cliff opens it in every direction, since tile 0 is open ground. -/
theorem sentry_opens_cliff :
    (∀ e ∈ (cliff [sentry]).events.toList, e.tile = 0) ∧
      (∀ d, (cliff [sentry]).onlyTileEvents.passable 0 0 d none = false ∧
        (cliff [sentry]).passable 0 0 d none = true) ∧
      ¬ ∀ (m : FieldMap) (x y : Int) (d : Direction) (self : Option UInt32),
        m.onlyTileEvents.passable x y d self = m.passable x y d self := by
  have hopens : ∀ d, (cliff [sentry]).onlyTileEvents.passable 0 0 d none = false ∧
      (cliff [sentry]).passable 0 0 d none = true := by
    intro d
    have hdeciding : (cliff [sentry]).decidingEvent? 0 0 d none = some sentry := by cases d <;> rfl
    rw [passable_of_deciding_blank hdeciding rfl]
    cases d <;> decide
  refine ⟨by decide, hopens, fun hsame => ?_⟩
  have hdown := hsame (cliff [sentry]) 0 0 .down none
  rw [(hopens .down).1, (hopens .down).2] at hdown
  contradiction

end FieldMap

end Overworld
