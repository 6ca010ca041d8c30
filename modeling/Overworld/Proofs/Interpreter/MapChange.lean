import Overworld.Proofs.Interpreter.Nesting
import Overworld.Proofs.Interpreter.Owners

/-!
# Frames that outlive their map

When the live map is replaced while events run, the next check of the map binds the frames of its
events to nothing, and from then on everything goes as if they had never acted for an event: they
set no switch of the new map. The check passes over the frames of common events, although these act
for the event that has called them. Such a frame still sets switches, and they are those of the
event of the new map that happens to have the same id.
-/

namespace Overworld

/-- The frame without its event, if that is one of the map `old`. -/
def Frame.unbound (old : UInt32) (f : Frame) : Frame :=
  match f.source with
  | .mapEvent id _ => if id = old then { f with source := .detached, event := 0 } else f
  | _ => f

section

variable {old : UInt32} {map : FieldMap} {f : Frame}

/-- A frame of an event of the map acts for no event afterwards. -/
theorem Frame.unbound_event {event : UInt32} (hsource : f.source = .mapEvent old event) :
    (f.unbound old).event = 0 := by
  rw [Frame.unbound, hsource]
  exact congrArg Frame.event (if_pos rfl)

/-- The check of another map lets a frame pass whether or not it has its event. -/
theorem Frame.ownerPresent_unbound (hmap : map.id ≠ old) :
    (f.unbound old).ownerPresent map = f.ownerPresent map := by
  unfold Frame.unbound
  split
  case h_2 => rfl
  case h_1 id event hsource =>
    by_cases hid : id = old
    · have hforeign : (id != map.id) = true := by simpa [hid] using hmap.symm
      simp only [if_pos hid, Frame.ownerPresent, hsource, hforeign, Bool.true_or]
    · rw [if_neg hid]

/-- The check of another map binds a frame again in the same way whether or not it has its event. -/
theorem Frame.rebound_unbound (hmap : map.id ≠ old) :
    (f.unbound old).rebound map = f.rebound map := by
  unfold Frame.unbound
  split
  case h_2 => rfl
  case h_1 id event hsource =>
    by_cases hid : id = old
    · have hforeign : id ≠ map.id := by simpa [hid] using hmap.symm
      simp only [if_pos hid, Frame.rebound, hsource, if_neg hforeign]
    · rw [if_neg hid]

/-- The check of another map leaves the same stack whether or not the frames have their events. -/
theorem FrameStack.revalidate_unbound (hmap : map.id ≠ old) (frames : FrameStack) :
    FrameStack.revalidate (frames.map (Frame.unbound old)) map = frames.revalidate map := by
  have hpresent : Frame.ownerPresent map ∘ Frame.unbound old = Frame.ownerPresent map :=
    funext fun _ => Frame.ownerPresent_unbound hmap
  have hrebound : Frame.rebound map ∘ Frame.unbound old = Frame.rebound map :=
    funext fun _ => Frame.rebound_unbound hmap
  have hreverse : (frames.map (Frame.unbound old)).reverse =
      frames.reverse.map (Frame.unbound old) := List.map_reverse.symm
  rw [FrameStack.revalidate, hreverse, List.takeWhile_map, List.map_map, hpresent, hrebound,
    FrameStack.revalidate]

/-- A frame that acts for no event sets no switch. -/
theorem Frame.assignSwitch_of_event (hevent : f.event = 0) (assignment : Option (String × Bool))
    (w : World) : f.assignSwitch assignment w = w.requestRefresh := by
  unfold Frame.assignSwitch
  split
  · exact if_pos hevent
  · rfl

end

namespace Interpreter

variable {i : Interpreter} {w : World}

/-- After a change of the map everything goes as if the frames of its events had none. -/
theorem update_unbound {old : UInt32} (hmap : w.map.id ≠ old) :
    i.update w = { i with frames := i.frames.map (Frame.unbound old) }.update w := by
  have hrunning : Interpreter.isRunning { i with frames := i.frames.map (Frame.unbound old) } =
      i.isRunning := by
    simp only [isRunning, List.isEmpty_map]
  unfold update
  rw [hrunning]
  by_cases hidle : i.isRunning = true
  · simp only [hidle, if_true, FrameStack.revalidate_unbound hmap]
  · have hempty : i.frames = [] := by simpa [isRunning] using hidle
    rw [if_neg hidle, if_neg hidle, hempty]
    exact congrArg (fun frames => (_, { i with frames }, w)) hempty

/-- The tick begins with the command of a common event on top of frames that may go on running. The
check of the map has not changed for which event the common event acts. -/
theorem opening_turns_common {f : Frame} {below : FrameStack} {instruction : Instruction}
    {id : UInt32} {switch : String} {value : Bool} (hframes : i.frames = f :: below)
    (hbelow : ∀ g ∈ below, g.ownerPresent w.map = true) (hsource : f.source = .common id)
    (hevent : f.event ≠ 0) (hwait : f.wait = 0) (hnext : f.list[f.cursor]? = some instruction)
    (hcommand : instruction.command = .setSelfSwitch (some (switch, value)))
    (hbudget : 0 < i.commandsPerTick) :
    ∃ m, (i.opening w).Turns i.maxDepth m ∧ m.world = w.setSwitch (some f.event) switch value := by
  have hanchored : FrameStack.Anchored w.map [f] := by
    intro g hg id' event hg'
    rw [List.mem_singleton.mp hg, hsource] at hg'
    cases hg'
  have hstack : i.frames.revalidate w.map = f :: below.map (Frame.rebound w.map) := by
    have happend : FrameStack.revalidate ([f] ++ below) w.map =
        FrameStack.revalidate [f] w.map ++ below.map (Frame.rebound w.map) :=
      FrameStack.revalidate_append hbelow
    rw [hanchored.revalidate_eq] at happend
    rw [hframes]
    exact happend
  obtain ⟨left, hleft⟩ : ∃ left, i.commandsPerTick = left + 1 :=
    ⟨i.commandsPerTick - 1, by omega⟩
  have heffect : Moment.effect i.maxDepth f (below.map (Frame.rebound w.map)) w instruction =
      { frames := { f with cursor := f.cursor + 1 } :: below.map (Frame.rebound w.map)
        world := w.setSwitch (some f.event) switch value } := by
    simp only [Moment.effect, hcommand, Command.execute, Frame.assignSwitch, if_neg hevent]
  rw [opening, hstack, hleft]
  exact ⟨_, .execute hwait hnext (congrArg Effect.flow heffect), congrArg Effect.world heffect⟩

/-- Who sets switches after a change of the map. Whatever runs, the first tick on the new map leads
to what it would lead to if no frame of an event of the old map acted for one, and a frame that acts
for none sets no switch as long as it goes on. But a common event's frame that was called for an
event sets a switch of the new map under the id that this event had on the old one. -/
theorem switches_after_map_change {old : UInt32} (hmap : w.map.id ≠ old) :
    (i.update w = { i with frames := i.frames.map (Frame.unbound old) }.update w ∧
      ∀ {f f' : Frame} {event : UInt32}, f.source = .mapEvent old event →
        (f.unbound old).GoesOn f' →
          ∀ assignment w', f'.assignSwitch assignment w' = w'.requestRefresh) ∧
    ∀ {f : Frame} {below : FrameStack} {instruction : Instruction} {id : UInt32} {switch : String}
      {value : Bool}, i.frames = f :: below → (∀ g ∈ below, g.ownerPresent w.map = true) →
      f.source = .common id → f.event ≠ 0 → f.wait = 0 → f.list[f.cursor]? = some instruction →
      instruction.command = .setSelfSwitch (some (switch, value)) → 0 < i.commandsPerTick →
      ∃ m, (i.opening w).Turns i.maxDepth m ∧
        m.world = w.setSwitch (some f.event) switch value := by
  refine ⟨⟨update_unbound hmap, ?_⟩, ?_⟩
  · intro f f' event hsource hon assignment w'
    exact Frame.assignSwitch_of_event (hon.event_eq.trans (Frame.unbound_event hsource)) _ _
  · intro f below instruction id switch value hframes hbelow hsource hevent hwait hnext hcommand
    exact opening_turns_common hframes hbelow hsource hevent hwait hnext hcommand

/-- The list of an event that does no more than call a common event. -/
private def stairsList : List Instruction := [{ code := 117, parameters := [.int 1] }]

/-- The common event waits for a tick and then sets a switch. -/
private def stairsCommon : CommonEvent :=
  { id := 1
    list := [{ code := 106, parameters := [.int 1] },
      { code := 123, parameters := [.str "A", .int 0] }] }

/-- A map with the event. -/
private def stairsMap : FieldMap :=
  { id := 3, events := Roster.ofList [MapEvent.ofList 1 "stairs" stairsList] }

/-- The tables with the common event. -/
private def stairsTables : DataTables := { commonEvents := [stairsCommon] }

/-- The interpreter while the common event waits. -/
private def onStairs : Interpreter :=
  (ofConfig 0 {}).performAll
    [.setupEvent stairsMap 1, .update { map := stairsMap, tables := stairsTables }]

/-- The world after a change of the map. -/
private def upstairs : World := { map := { id := 8 }, tables := stairsTables }

/-- The common event on the stairs goes on upstairs, for the event that has called it. -/
theorem switches_after_map_change_stairs :
    upstairs.map.id ≠ 3 ∧
      ∃ m, (onStairs.opening upstairs).Turns onStairs.maxDepth m ∧
        m.world = upstairs.setSwitch (some 1) "A" true := by
  have hmap : upstairs.map.id ≠ 3 := by decide
  have hframes : onStairs.frames =
      [{ Frame.ofCommon 1 stairsCommon 1 with cursor := 1 },
        { depth := 0, source := .mapEvent 3 1, event := 1, list := stairsList, cursor := 1 }] := rfl
  have hbudget : 0 < onStairs.commandsPerTick := by decide
  refine ⟨hmap, (switches_after_map_change hmap).2 hframes ?_ rfl (by decide) rfl rfl rfl hbudget⟩
  simp [upstairs, Frame.ownerPresent]

/-- A frame from before a change of the map can set a switch of the new map: that of a common event
which an event of the old map has called. -/
theorem common_sets_switch_of_new_map :
    onStairs.frames.map (·.source) = [.common 1, .mapEvent 3 1] ∧
      upstairs.switches.get { map := 8, event := some 1, switch := "A" } = false ∧
      (onStairs.tick upstairs).world.switches.get { map := 8, event := some 1, switch := "A" } =
        true := by
  decide

end Interpreter

end Overworld
