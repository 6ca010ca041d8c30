import Overworld.Proofs.Interpreter.TransferSlot

/-!
# The footprint of a tick

A tick may set switches, tell the host of things and ask for a refresh or a transfer. However it
ends, it leaves everything else of a world alone: the map but for the request for a refresh, which
is never withdrawn, the tables, and the notices that are there already. A switch that has changed
always asks for a refresh, and only a transfer that can be carried out writes the slot for one. A
script that fails on the way, or whose call is too deep, is no exception.
-/

namespace Overworld

/-- What a tick leaves alone of a world, and what it asks for if it changes a switch. -/
structure World.Footprint (w w' : World) : Prop where
  map_agrees : w.map.AgreesWith w'.map
  refresh_kept : w.map.needRefresh = true → w'.map.needRefresh = true
  refresh_of_change : ∀ key, w'.switches.get key ≠ w.switches.get key → w'.map.needRefresh = true
  tables_eq : w'.tables = w.tables
  notices_prefix : w.notices <+: w'.notices

section

variable {w w₁ w' : World}

/-- A world that stays as it is. -/
theorem World.Footprint.refl (w : World) : w.Footprint w where
  map_agrees := rfl
  refresh_kept := id
  refresh_of_change := fun _ hchanged => absurd rfl hchanged
  tables_eq := rfl
  notices_prefix := List.prefix_rfl

/-- One footprint after the other. A switch that has changed in between has asked for a refresh
that is still asked for. -/
theorem World.Footprint.trans (h : w.Footprint w₁) (h' : w₁.Footprint w') : w.Footprint w' where
  map_agrees := h.map_agrees.trans h'.map_agrees
  refresh_kept := fun hneed => h'.refresh_kept (h.refresh_kept hneed)
  refresh_of_change := by
    intro key hchanged
    by_cases hfirst : w₁.switches.get key = w.switches.get key
    · apply h'.refresh_of_change key
      rwa [hfirst]
    · have hneed : w₁.map.needRefresh = true := h.refresh_of_change key hfirst
      exact h'.refresh_kept hneed
  tables_eq := h'.tables_eq.trans h.tables_eq
  notices_prefix := h.notices_prefix.trans h'.notices_prefix

/-- A step that sets no switch. -/
theorem World.Footprint.of_switches_eq (hswitches : w'.switches = w.switches)
    (hmap : w.map.AgreesWith w'.map)
    (hneed : w.map.needRefresh = true → w'.map.needRefresh = true)
    (htables : w'.tables = w.tables) (hnotices : w.notices <+: w'.notices) : w.Footprint w' where
  map_agrees := hmap
  refresh_kept := hneed
  refresh_of_change := by
    intro key hchanged
    rw [hswitches] at hchanged
    exact absurd rfl hchanged
  tables_eq := htables
  notices_prefix := hnotices

/-- Every step of a world is within the footprint. -/
theorem World.Step.footprint (h : World.Step w w') : w.Footprint w' := by
  have hmap : w.map.AgreesWith w'.map := h.map_agrees
  cases h with
  | log event text =>
    exact .of_switches_eq rfl hmap id rfl (List.prefix_append ..)
  | refresh => exact .of_switches_eq rfl hmap (fun _ => rfl) rfl List.prefix_rfl
  | assign event switch value =>
    have hneed : (w.setSwitch event switch value).map.needRefresh = true := rfl
    exact ⟨hmap, fun _ => hneed, fun _ _ => hneed, rfl, List.prefix_append ..⟩
  | transfer request => exact .of_switches_eq rfl hmap id rfl List.prefix_rfl

/-- Steps, one after the other, are within the footprint. -/
theorem World.Steps.footprint (h : World.Steps w w') : w.Footprint w' := by
  induction h with
  | refl => exact .refl w
  | tail _ hstep ih => exact ih.trans hstep.footprint

end

/-- **The footprint of a tick.** Whatever the stack holds, whatever the budget is and however the
tick ends, also with a fault: the map is as before but for a request for a refresh, which may be
added and is never withdrawn; if the value of any switch has changed, a refresh is asked for; the
tables are as before; and the notices that were there are still there, before any others. The slot
for a transfer is as before, unless the tick has executed a transfer that can be carried out: that
was its last command, and the slot holds its request. -/
theorem Interpreter.tick_footprint (i : Interpreter) (w : World) :
    let t := i.tick w
    w.Footprint t.world ∧
      (((∀ request, .transfer (some request) ∉ i.commands w) ∧ t.world.transfer = w.transfer) ∨
        ∃ request, (i.commands w).getLast? = some (.transfer (some request)) ∧
          t.result = .ok .yielded ∧ t.world.transfer = some request) := by
  intro t
  have hsteps : World.Steps w t.world := i.tick_steps w
  refine ⟨hsteps.footprint, ?_⟩
  rcases i.tick_transfer w with hkept | ⟨before, request, hcommands, -, hresult, hslot⟩
  · exact .inl hkept
  · have hlast : (i.commands w).getLast? = some (.transfer (some request)) := by
      rw [hcommands, List.getLast?_concat]
    exact .inr ⟨request, hlast, hresult, hslot⟩

/-- A script that sets a switch and then throws: the tick fails, the switch stays set, the refresh
is asked for, and the request that was in the slot is still there. -/
example :
    let script := "set_others_self_switch(\"gate\", \"A\", true); throw 1;"
    let gate := MapEvent.ofList 3 "gate" [{ code := 355, parameters := [.str script] }]
    let w : World :=
      { map := { events := .ofList [gate] }, tables := {}, transfer := some ⟨4, 1, 1, none⟩ }
    let i : Interpreter :=
      { maxDepth := 9, commandsPerTick := 5
        frames := (Frame.ofEvent? 0 0 gate).toList }
    let t := i.tick w
    t.result.isOk = false ∧ t.world.switches.get ⟨0, some 3, "A"⟩ = true ∧
      t.world.map.needRefresh = true ∧ t.world.transfer = w.transfer := by
  decide +kernel

end Overworld
