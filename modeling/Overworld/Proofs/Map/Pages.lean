import Overworld.Map.FieldMap

/-!
# Due pages

The page that is due for an event is the last one whose condition holds under the self switches.
A refresh puts every event on it, so a map on which no refresh has been asked for keeps every
event on its due page for as long as nobody writes a switch.
-/

namespace Overworld

/-- The condition of a page holds for the event with this id. -/
def EventPage.Holds (page : EventPage) (map id : UInt32) (switches : SelfSwitches) : Prop :=
  ∀ switch, page.condition.selfSwitch = some switch →
    switches.get { map, event := some id, switch } = true

/-- The active page of an event is the last one whose condition holds; there is none if no
condition does. -/
def MapEvent.OnDuePage (e : MapEvent) (map : UInt32) (switches : SelfSwitches) : Prop :=
  match e.page with
  | none => ∀ page ∈ e.pages, ¬ page.Holds map e.id switches
  | some k =>
    (∃ page, e.pages[k]? = some page ∧ page.Holds map e.id switches) ∧
      ∀ j page, k < j → e.pages[j]? = some page → ¬ page.Holds map e.id switches

/-- Every event of a map that is not erased is on its due page. -/
def FieldMap.PagesDue (m : FieldMap) (switches : SelfSwitches) : Prop :=
  ∀ e ∈ m.events.toList, e.erased = false → e.OnDuePage m.id switches

/-- No refresh of a map is lost: it is still asked for, or there is nothing to refresh. -/
def FieldMap.Tracks (m : FieldMap) (switches : SelfSwitches) : Prop :=
  m.needRefresh = true ∨ m.PagesDue switches

namespace MapEvent

/-- The test of a condition says whether it holds. -/
theorem meets_iff {map id : UInt32} {switches : SelfSwitches} {page : EventPage} :
    meets map id switches page = true ↔ page.Holds map id switches := by
  unfold meets EventPage.Holds
  cases page.condition.selfSwitch <;> simp

section

variable {α : Type} {p : α → Bool} {l : List α}

/-- Where the search for a last place finds nothing, nothing has the property. -/
theorem lastIndex?_eq_none {start : Nat} (h : lastIndex? p start l = none) :
    ∀ a ∈ l, ¬ p a = true := by
  induction l generalizing start with
  | nil => simp
  | cons a rest ih =>
    rw [lastIndex?] at h
    cases hrest : lastIndex? p (start + 1) rest with
    | some k => simp [hrest] at h
    | none =>
      rw [hrest] at h
      have ha : ¬ p a = true := by
        intro ha
        simp [ha] at h
      exact List.forall_mem_cons.mpr ⟨ha, ih hrest⟩

/-- The search for a last place finds one with the property, and none behind it has it. -/
theorem lastIndex?_eq_some {start k : Nat} (h : lastIndex? p start l = some k) :
    ∃ i, k = start + i ∧ (∃ a, l[i]? = some a ∧ p a = true) ∧
      ∀ j a, i < j → l[j]? = some a → ¬ p a = true := by
  induction l generalizing start k with
  | nil => simp [lastIndex?] at h
  | cons a rest ih =>
    rw [lastIndex?] at h
    cases hrest : lastIndex? p (start + 1) rest with
    | some k' =>
      simp only [hrest, Option.some.injEq] at h
      obtain ⟨i, hi, hfound, hlast⟩ := ih hrest
      refine ⟨i + 1, by omega, hfound, fun j b hij hb => ?_⟩
      cases j with
      | zero => omega
      | succ j => exact hlast j b (by omega) hb
    | none =>
      rw [hrest] at h
      by_cases ha : p a = true
      · simp only [ha, if_true, Option.some.injEq] at h
        refine ⟨0, h.symm, ⟨a, rfl, ha⟩, fun j b hj hb => ?_⟩
        cases j with
        | zero => omega
        | succ j => exact lastIndex?_eq_none hrest b (List.mem_of_getElem? hb)
      · simp [ha] at h

end

/-- A refresh puts an event on its due page, unless it is erased. -/
theorem refresh_onDuePage (map : UInt32) (switches : SelfSwitches) {e : MapEvent}
    (hpresent : e.erased = false) : (e.refresh map switches).OnDuePage map switches := by
  have hdue : e.dueOf map switches = lastIndex? (meets map e.id switches) 0 e.pages := by
    simp [dueOf, hpresent]
  unfold OnDuePage refresh
  cases hpage : e.dueOf map switches with
  | none =>
    intro page hmem hholds
    exact lastIndex?_eq_none (hdue ▸ hpage) page hmem (meets_iff.mpr hholds)
  | some k =>
    obtain ⟨i, hk, ⟨page, hget, hmeets⟩, hlast⟩ := lastIndex?_eq_some (hdue ▸ hpage)
    obtain rfl : k = i := by omega
    refine ⟨⟨page, hget, meets_iff.mp hmeets⟩, fun j page hj hget hholds => ?_⟩
    exact hlast j page hj hget (meets_iff.mpr hholds)

end MapEvent

namespace FieldMap

/-- After a refresh every event is on its due page. -/
theorem refresh_pagesDue (m : FieldMap) (switches : SelfSwitches) :
    (m.refresh switches).PagesDue switches := by
  intro e he herased
  obtain ⟨f, -, rfl⟩ := List.mem_map.mp he
  exact MapEvent.refresh_onDuePage m.id switches herased

/-- A new map has every event on its due page, and asks for no refresh. -/
theorem ofRecord_pagesDue (id : UInt32) (r : MapRecord) (tilesets : List Tileset)
    (switches : SelfSwitches) : (ofRecord id r tilesets switches).PagesDue switches ∧
      (ofRecord id r tilesets switches).needRefresh = false :=
  ⟨refresh_pagesDue _ _, rfl⟩

/-- The map without events has nothing to refresh. -/
theorem empty_pagesDue (switches : SelfSwitches) : PagesDue {} switches :=
  fun _ he => absurd he List.not_mem_nil

/-- Where no refresh is lost, carrying out the one that is asked for puts every event on its due
page. -/
theorem Tracks.refreshIfNeeded {m : FieldMap} {switches : SelfSwitches} (h : m.Tracks switches) :
    (m.refreshIfNeeded switches).PagesDue switches ∧
      (m.refreshIfNeeded switches).needRefresh = false := by
  unfold FieldMap.refreshIfNeeded
  by_cases hneed : m.needRefresh = true
  · rw [if_pos hneed]
    exact ⟨refresh_pagesDue m switches, rfl⟩
  · rw [if_neg hneed]
    exact ⟨h.resolve_left hneed, Bool.eq_false_iff.mpr hneed⟩

end FieldMap

end Overworld
