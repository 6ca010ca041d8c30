import Mathlib.Order.Bounds.Basic
import Overworld.Proofs.Interpreter.Suspension

/-!
# Cancelled frames

An event that is erased or removed while it runs takes down its frame and everything that was
called from it, whatever that is: common events, events that are still there, lists of no map. Its
callers stay. The check of the map at the beginning of a tick walks up the stack to the first such
frame, and the tick is one of what lies below.
-/

namespace Overworld

/-- A frame of one of the map's own events that is missing or erased. -/
def Frame.Orphaned (map : FieldMap) (f : Frame) : Prop :=
  ∃ event, f.source = .mapEvent map.id event ∧
    ∀ e, map.events.get? event = some e → e.erased = true

/-- What the check of a map makes of a frame that it keeps. A frame of another map's event is bound
to nothing from now on and acts for no event; any other frame stays as it is. -/
structure Frame.KeptAs (map : FieldMap) (f f' : Frame) : Prop where
  depth_eq : f'.depth = f.depth
  list_eq : f'.list = f.list
  cursor_eq : f'.cursor = f.cursor
  wait_eq : f'.wait = f.wait
  foreign : ∀ id event, f.source = .mapEvent id event → id ≠ map.id →
    f'.source = .detached ∧ f'.event = 0
  own : (∀ id event, f.source = .mapEvent id event → id = map.id) → f' = f

/-- Places in a stack, counted from the bottom, at which it is to be cut: its end, and every frame
of an event that is gone. -/
def FrameStack.cuts (map : FieldMap) (frames : FrameStack) : Set Nat :=
  {n | n = frames.length ∨ ∃ f, frames.reverse[n]? = some f ∧ f.Orphaned map}

section

variable {map : FieldMap}

/-- The check lets a frame pass unless its event is gone. -/
theorem Frame.orphaned_iff {f : Frame} : f.Orphaned map ↔ f.ownerPresent map = false := by
  rw [← Bool.not_eq_true, Frame.ownerPresent_iff]
  unfold Frame.Orphaned FieldMap.Holds
  constructor
  · rintro ⟨event, hsource, hgone⟩ hholds
    obtain ⟨e, he, hthere⟩ := hholds event hsource
    rw [hgone e he] at hthere
    cases hthere
  · intro hholds
    obtain ⟨event, hevent⟩ := not_forall.mp hholds
    obtain ⟨hsource, hgone⟩ := Classical.not_imp.mp hevent
    refine ⟨event, hsource, fun e he => ?_⟩
    cases herased : e.erased with
    | true => rfl
    | false => exact absurd ⟨e, he, herased⟩ hgone

/-- A frame that the check binds again is kept. -/
theorem Frame.keptAs_rebound (f : Frame) : f.KeptAs map (f.rebound map) := by
  unfold Frame.rebound
  split
  case h_1 id event hsource =>
    by_cases hid : id = map.id
    · rw [if_pos hid]
      refine ⟨rfl, rfl, rfl, rfl, fun id' event' hsource' hforeign => ?_, fun _ => rfl⟩
      rw [hsource] at hsource'
      cases hsource'
      exact absurd hid hforeign
    · rw [if_neg hid]
      refine ⟨rfl, rfl, rfl, rfl, fun _ _ _ _ => ⟨rfl, rfl⟩, fun hown => ?_⟩
      exact absurd (hown id event hsource) hid
  case h_2 hother =>
    exact ⟨rfl, rfl, rfl, rfl, fun _ _ hsource => absurd hsource (hother _ _), fun _ => rfl⟩

/-- The check of a map cuts a stack at the first frame whose event is gone, and keeps the frames
below it. -/
theorem FrameStack.revalidate_cuts (map : FieldMap) (frames : FrameStack) :
    ∃ k, IsLeast (frames.cuts map) k ∧
      List.Forall₂ (Frame.KeptAs map) (frames.reverse.take k) (frames.revalidate map).reverse := by
  let gone : Frame → Bool := fun f => !f.ownerPresent map
  have hgone (f : Frame) : gone f = true ↔ f.Orphaned map := by
    rw [Frame.orphaned_iff, Bool.not_eq_true']
  refine ⟨frames.reverse.findIdx gone, ⟨?_, ?_⟩, ?_⟩
  · by_cases hfound : frames.reverse.findIdx gone < frames.reverse.length
    · exact .inr ⟨_, List.getElem?_eq_getElem hfound, (hgone _).mp List.findIdx_getElem⟩
    · left
      rw [← List.length_reverse]
      exact Nat.le_antisymm List.findIdx_le_length (Nat.le_of_not_lt hfound)
  · rintro n (rfl | ⟨f, hf, horphaned⟩)
    · rw [← List.length_reverse]
      exact List.findIdx_le_length
    · by_contra hbefore
      obtain ⟨hn, rfl⟩ := List.getElem?_eq_some_iff.mp hf
      have hthere := List.not_of_lt_findIdx (Nat.lt_of_not_le hbefore)
      rw [(hgone _).mpr horphaned] at hthere
      cases hthere
  · rw [FrameStack.revalidate, List.reverse_reverse, List.takeWhile_eq_take_findIdx_not,
      List.forall₂_map_right_iff, List.forall₂_same]
    exact fun f _ => f.keptAs_rebound

end

namespace Interpreter

/-- **An event that is gone takes down what it has called, and nothing else.** Let the stack of a
running interpreter be cut at its lowest frame of an event of the map that is missing or erased, if
there is one. The frames below are kept with their lists and where they are in them; those of other
maps are bound to nothing. The tick begins with them: it leads to what a tick of these frames alone
leads to, and executes the commands of that one. If no frame is kept, it finishes, and the world
stays as it is. Checking the frames that are kept again changes nothing. -/
theorem update_cuts (i : Interpreter) (w : World) (hrunning : i.frames ≠ []) :
    ∃ (k : Nat) (kept : FrameStack), IsLeast (i.frames.cuts w.map) k ∧
      List.Forall₂ (Frame.KeptAs w.map) (i.frames.reverse.take k) kept.reverse ∧
      (i.opening w).frames = kept ∧ kept.revalidate w.map = kept ∧
      (kept ≠ [] → i.update w = { i with frames := kept }.update w ∧
        i.commands w = { i with frames := kept }.commands w) ∧
      (kept = [] → i.update w = (.ok .finished, { i with frames := [] }, w) ∧
        i.commands w = []) := by
  obtain ⟨k, hleast, hkept⟩ := i.frames.revalidate_cuts w.map
  have hagain : (i.frames.revalidate w.map).revalidate w.map = i.frames.revalidate w.map :=
    (FrameStack.revalidate_anchored w.map i.frames).revalidate_eq
  refine ⟨k, _, hleast, hkept, rfl, hagain, fun hsome => ?_, fun hnone => ?_⟩
  · have hopening : i.opening w = opening { i with frames := i.frames.revalidate w.map } w := by
      simp only [opening, hagain]
    have htick : i.tick w = tick { i with frames := i.frames.revalidate w.map } w := by
      rw [tick_eq_run w hrunning, hopening]
      exact (tick_eq_run (i := { i with frames := i.frames.revalidate w.map }) w hsome).symm
    constructor
    · rw [update_eq, update_eq, htick]
    · rw [commands, hopening]
      rfl
  · have hopening : i.opening w = ⟨i.commandsPerTick, [], w⟩ := by rw [opening, hnone]
    have htick : i.tick w = ⟨.ok .finished, [], w⟩ := by
      rw [tick_eq_run w hrunning, hopening]
      exact Moment.Ends.finished.run_eq
    constructor
    · rw [update_eq, htick]
    · exact Moment.commands_eq_nil (congrArg Moment.frames hopening)

/-- A map with a guard, and a thief who has just been erased. -/
private def alarm : World :=
  { map :=
      { id := 7
        events := Roster.ofList
          [MapEvent.ofList 1 "guard" [], (MapEvent.ofList 2 "thief" []).erase] }
    tables := {} }

/-- Somebody of another map has called the guard. -/
private def onDuty : FrameStack :=
  [{ depth := 1, source := .mapEvent 7 1, event := 1, list := [{ code := 108 }, { code := 106 }],
     cursor := 1 },
    { depth := 0, source := .mapEvent 6 4, event := 4, list := [{ code := 108 }], wait := 3 }]

/-- The guard has called the thief, who has called a common event, which has called the guard. -/
private def heist : FrameStack :=
  [{ depth := 4, source := .mapEvent 7 1, event := 1, list := [{ code := 108 }] },
    { depth := 3, source := .common 5, event := 2, list := [{ code := 108 }] },
    { depth := 2, source := .mapEvent 7 2, event := 2, list := [{ code := 108 }] }] ++ onDuty

/-- The thief takes down the common event and the second frame of the guard. The first one goes on
where it is, above a caller that is bound to nothing from now on. -/
theorem update_cuts_heist :
    let i : Interpreter := { maxDepth := 9, commandsPerTick := 5, frames := heist }
    i.frames ≠ [] ∧ IsLeast (i.frames.cuts alarm.map) 2 ∧
      i.update alarm = { i with frames := onDuty.map (Frame.rebound alarm.map) }.update alarm := by
  intro i
  have hrunning : i.frames ≠ [] := List.cons_ne_nil _ _
  obtain ⟨k, kept, hleast, hkept, hopening, -, hsome, -⟩ := update_cuts i alarm hrunning
  obtain rfl : kept = onDuty.map (Frame.rebound alarm.map) := hopening.symm
  obtain rfl : k = 2 := by
    have hlength : min k 5 = 2 := by simpa [i, heist, onDuty] using hkept.length_eq
    omega
  exact ⟨hrunning, hleast, (hsome (List.cons_ne_nil _ _)).1⟩

end Interpreter

end Overworld
