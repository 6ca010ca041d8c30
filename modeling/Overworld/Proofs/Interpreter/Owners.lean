import Mathlib.Data.List.Nodup
import Mathlib.Data.List.TakeWhile
import Overworld.Proofs.Interpreter.Loop

/-!
# Owners of frames

Frames are checked against the map when a tick begins. Frames that pass the check stay as they
are during the tick, and the frames that commands add would pass it as well, so the check of the
next tick changes nothing unless the map has been changed in between.
-/

namespace Overworld

/-- Every id occurs once in a roster. -/
theorem Roster.nodup_ids (r : Roster) : (r.toList.map (·.id)).Nodup := by
  rw [List.Nodup, List.pairwise_map]
  refine r.ascending.imp fun hlt heq => ?_
  rw [heq] at hlt
  exact Nat.lt_irrefl _ hlt

/-- What is found under an id has it. -/
theorem Roster.id_of_get? {r : Roster} {id : UInt32} {e : MapEvent} (h : r.get? id = some e) :
    e.id = id :=
  of_decide_eq_true (List.find?_some h :)

/-- An event is found under its own id. -/
theorem Roster.get?_of_mem {r : Roster} {e : MapEvent} (h : e ∈ r.toList) : r.get? e.id = some e := by
  obtain ⟨f, hf⟩ : ∃ f, r.get? e.id = some f := by
    rw [← Option.isSome_iff_exists, Roster.get?, List.find?_isSome]
    exact ⟨e, h, decide_eq_true rfl⟩
  have hmem : f ∈ r.toList := List.mem_of_find?_eq_some hf
  rw [hf, List.inj_on_of_nodup_map r.nodup_ids hmem h (Roster.id_of_get? hf)]

/-- An event that a target names is found under its own id. -/
theorem CallTarget.get?_of_resolve? {map : FieldMap} {target : CallTarget} {e : MapEvent}
    (h : target.resolve? map = some e) : map.events.get? e.id = some e := by
  cases target <;> exact Roster.get?_of_mem (List.mem_of_find?_eq_some h)

/-- An event that can be run is not erased. -/
theorem MapEvent.erased_of_isExecutable {e : MapEvent} (h : e.isExecutable = true) :
    e.erased = false := by
  unfold MapEvent.isExecutable at h
  simpa using (Bool.and_eq_true_iff.mp h).1

/-- An event that is on a map and not erased. -/
def FieldMap.Holds (map : FieldMap) (event : UInt32) : Prop :=
  ∃ e, map.events.get? event = some e ∧ e.erased = false

/-- A frame of no map, or of one of the map's own events that is there and not erased. -/
def Frame.Anchored (map : FieldMap) (f : Frame) : Prop :=
  ∀ id event, f.source = .mapEvent id event → id = map.id ∧ map.Holds event

/-- A stack of such frames. -/
def FrameStack.Anchored (map : FieldMap) (frames : FrameStack) : Prop :=
  ∀ f ∈ frames, f.Anchored map

section

variable {map : FieldMap}

/-- A frame may go on running unless it belongs to one of the map's own events that is gone. -/
theorem Frame.ownerPresent_iff {f : Frame} :
    f.ownerPresent map = true ↔ ∀ event, f.source = .mapEvent map.id event → map.Holds event := by
  unfold Frame.ownerPresent FieldMap.Holds
  split
  case h_1 id event hsource =>
    by_cases hid : id = map.id
    · simp [hsource, hid, Option.any_eq_true]
    · simp [hsource, hid]
  case h_2 hother => simpa using fun event hsource => absurd hsource (hother _ _)

/-- A frame that belongs to what is there passes the check. -/
theorem Frame.Anchored.ownerPresent {f : Frame} (h : f.Anchored map) :
    f.ownerPresent map = true :=
  Frame.ownerPresent_iff.mpr fun event hsource => (h _ event hsource).2

/-- A frame that belongs to what is there is left as it is by the check. -/
theorem Frame.Anchored.rebound_eq {f : Frame} (h : f.Anchored map) : f.rebound map = f := by
  unfold Frame.rebound
  split
  case h_1 id event hsource => rw [if_pos (h id event hsource).1]
  case h_2 => rfl

/-- A frame that passes the check belongs to what is there afterwards. -/
theorem Frame.rebound_anchored {f : Frame} (h : f.ownerPresent map = true) :
    (f.rebound map).Anchored map := by
  intro id event hsource
  unfold Frame.rebound at hsource
  split at hsource
  case h_1 id' event' hbefore =>
    by_cases hid : id' = map.id
    · rw [if_pos hid] at hsource
      obtain ⟨rfl, rfl⟩ : id' = id ∧ event' = event := by simpa using hbefore.symm.trans hsource
      exact ⟨hid, Frame.ownerPresent_iff.mp h _ (hid ▸ hsource)⟩
    · rw [if_neg hid] at hsource
      cases hsource
  case h_2 hother => exact absurd hsource (hother _ _)

/-- Where a frame has come in its list does not matter for what it belongs to. -/
theorem Frame.GoesOn.anchored {f f' : Frame} (hon : f.GoesOn f') (h : f.Anchored map) :
    f'.Anchored map := fun id event hsource => h id event (hon.source_eq ▸ hsource)

/-- Whether a map is to be refreshed does not matter for what belongs to it. -/
theorem Frame.Anchored.congr {map' : FieldMap} {f : Frame} (h : f.Anchored map)
    (hagrees : map.AgreesWith map') : f.Anchored map' := by
  unfold FieldMap.AgreesWith at hagrees
  rw [hagrees]
  exact h

/-- The frame of a common event belongs to no map. -/
theorem Frame.ofCommon_anchored (depth : UInt32) (c : CommonEvent) (event : UInt32) :
    (Frame.ofCommon depth c event).Anchored map := by
  intro id event hsource
  cases hsource

/-- The frame of a call belongs to an event that is there. -/
theorem CallTarget.childFrame_anchored {target : CallTarget} {depth limit : UInt32} {child : Frame}
    (h : target.childFrame map depth limit = .ok (some child)) : child.Anchored map := by
  obtain ⟨e, htarget, hexecutable, -, hchild⟩ := CallTarget.childFrame_some h
  obtain ⟨list, -, rfl⟩ := Option.map_eq_some_iff.mp hchild
  intro id event hsource
  obtain ⟨rfl, rfl⟩ : map.id = id ∧ e.id = event := by simpa using hsource
  exact ⟨rfl, e, CallTarget.get?_of_resolve? htarget, MapEvent.erased_of_isExecutable hexecutable⟩

/-- After the check every frame of a stack belongs to what is there. -/
theorem FrameStack.revalidate_anchored (map : FieldMap) (frames : FrameStack) :
    (frames.revalidate map).Anchored map := by
  intro f hf
  simp only [FrameStack.revalidate, List.mem_reverse, List.mem_map] at hf
  obtain ⟨g, hg, rfl⟩ := hf
  exact Frame.rebound_anchored (List.mem_takeWhile_imp hg)

/-- The check of frames that may go on running only binds them again. -/
theorem FrameStack.revalidate_append {upper lower : FrameStack}
    (hlower : ∀ f ∈ lower, f.ownerPresent map = true) :
    (upper ++ lower).revalidate map = upper.revalidate map ++ lower.map (Frame.rebound map) := by
  have hlower : ∀ f ∈ lower.reverse, f.ownerPresent map = true :=
    fun f hf => hlower f (List.mem_reverse.mp hf)
  simp only [FrameStack.revalidate, List.reverse_append, List.takeWhile_append_of_pos hlower,
    List.map_append, List.map_reverse, List.reverse_reverse]

/-- The check changes nothing of a stack that belongs to what is there. -/
theorem FrameStack.Anchored.revalidate_eq {frames : FrameStack} (h : frames.Anchored map) :
    frames.revalidate map = frames := by
  have hrebound : ∀ f ∈ frames, f.rebound map = f := fun f hf => (h f hf).rebound_eq
  have hcheck : ([] ++ frames : FrameStack).revalidate map = [] ++ frames.map (Frame.rebound map) :=
    FrameStack.revalidate_append fun f hf => (h f hf).ownerPresent
  rw [List.map_congr_left hrebound, List.map_id'] at hcheck
  exact hcheck

/-- Whether a map is to be refreshed does not matter for what a stack belongs to. -/
theorem FrameStack.Anchored.congr {map' : FieldMap} {frames : FrameStack}
    (h : frames.Anchored map) (hagrees : map.AgreesWith map') : frames.Anchored map' :=
  fun f hf => (h f hf).congr hagrees

end

section

variable {limit : UInt32}

/-- A child that a frame puts upon itself belongs to what is there. -/
theorem Frame.Calls.anchored {top child : Frame} {w : World} (h : top.Calls limit w child) :
    child.Anchored w.map := by
  cases h with
  | common => exact Frame.ofCommon_anchored _ _ _
  | event hchild => exact CallTarget.childFrame_anchored hchild

/-- A command leaves a stack that belongs to what is there. -/
theorem Frame.Leaves.anchored {top : Frame} {below frames : FrameStack} {w : World}
    (h : top.Leaves limit w below frames) (hall : FrameStack.Anchored w.map (top :: below)) :
    frames.Anchored w.map := by
  obtain ⟨htop, hbelow⟩ := List.forall_mem_cons.mp hall
  cases h with
  | ended => exact hbelow
  | goesOn hon => exact List.forall_mem_cons.mpr ⟨hon.anchored htop, hbelow⟩
  | called hon hcall =>
    exact List.forall_mem_cons.mpr
      ⟨hcall.anchored, List.forall_mem_cons.mpr ⟨hon.anchored htop, hbelow⟩⟩

namespace Moment

/-- A moment of a tick whose stack belongs to what is there. -/
def Anchored (m : Moment) : Prop := m.frames.Anchored m.world.map

/-- What the next command leaves belongs to what is there. -/
theorem effect_anchored {top : Frame} {below : FrameStack} {w : World} {i : Instruction}
    (h : FrameStack.Anchored w.map (top :: below)) :
    (effect limit top below w i).frames.Anchored (effect limit top below w i).world.map := by
  have hmoved : FrameStack.Anchored w.map ({ top with cursor := top.cursor + 1 } :: below) := by
    obtain ⟨htop, hbelow⟩ := List.forall_mem_cons.mp h
    exact List.forall_mem_cons.mpr ⟨htop, hbelow⟩
  exact ((Command.execute_leaves ..).anchored hmoved).congr (Command.execute_steps ..).map_agrees

/-- A turn of the loop leaves what belongs to what is there. -/
theorem Turns.anchored {m m' : Moment} (hturn : m.Turns limit m') (h : m.Anchored) :
    m'.Anchored := by
  cases hturn with
  | drop => exact (List.forall_mem_cons.mp h).2
  | execute => exact effect_anchored h

/-- All turns of the loop do. -/
theorem Leads.anchored {m m' : Moment} (hleads : m.Leads limit m') (h : m.Anchored) :
    m'.Anchored := by
  induction hleads with
  | refl => exact h
  | tail _ hturn ih => exact hturn.anchored ih

/-- The last turn does. -/
theorem Ends.anchored {m : Moment} {t : Tick} (hends : m.Ends limit t) (h : m.Anchored) :
    t.frames.Anchored t.world.map := by
  cases hends with
  | finished => exact fun f hf => absurd hf List.not_mem_nil
  | spent => exact h
  | transfers | fails => exact effect_anchored h
  | waiting =>
    obtain ⟨htop, hbelow⟩ := List.forall_mem_cons.mp h
    exact List.forall_mem_cons.mpr ⟨htop, hbelow⟩

end Moment

/-- A tick leaves a stack that the next check leaves as it is, unless the map is changed. -/
theorem Interpreter.tick_anchored {i : Interpreter} (w : World) (h : i.frames ≠ []) :
    (i.tick w).frames.Anchored (i.tick w).world.map := by
  obtain ⟨m, hleads, hends⟩ := Moment.exists_ends i.maxDepth (i.opening w)
  rw [i.tick_eq_run w h]
  exact hends.anchored (hleads.anchored (FrameStack.revalidate_anchored _ _))

end

end Overworld
