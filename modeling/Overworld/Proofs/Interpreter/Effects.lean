import Overworld.Interpreter.Command
import Overworld.Proofs.Interpreter.ScriptSteps

/-!
# What commands do

A command changes a world by steps and a stack only at its top: the running frame goes on
or ends, and a child may be put upon it. What lies below the running frame is neither read
nor changed.
-/

namespace Overworld

/-- A frame that is within its list, or just behind the end of it. -/
def Frame.Within (f : Frame) : Prop := f.cursor ≤ f.list.length

/-- A frame that has gone on: it has the same depth, source, event and list as before, and has not
left the list. -/
structure Frame.GoesOn (top top' : Frame) : Prop where
  depth_eq : top'.depth = top.depth
  source_eq : top'.source = top.source
  event_eq : top'.event = top.event
  list_eq : top'.list = top.list
  within : top.Within → top'.Within

/-- The children that a running frame can put upon itself. -/
inductive Frame.Calls (limit : UInt32) (w : World) (top : Frame) : Frame → Prop
  | common {id : UInt32} {c : CommonEvent} (hcommon : w.tables.commonEvent? id = some c)
      (hdepth : top.depth + 1 ≤ limit) :
      Calls limit w top (Frame.ofCommon (top.depth + 1) c top.event)
  | event {target : CallTarget} {child : Frame}
      (hchild : target.childFrame w.map top.depth limit = .ok (some child)) :
      Calls limit w top child

/-- The stacks that a command of the running frame can leave. -/
inductive Frame.Leaves (limit : UInt32) (w : World) (top : Frame) (below : FrameStack) :
    FrameStack → Prop
  | ended : Leaves limit w top below below
  | goesOn {top' : Frame} (hon : top.GoesOn top') : Leaves limit w top below (top' :: below)
  | called {top' child : Frame} (hon : top.GoesOn top') (hcall : top.Calls limit w child) :
      Leaves limit w top below (child :: top' :: below)

/-- A call that puts a frame on a stack names an event that can be run, and is within the limit. -/
theorem CallTarget.childFrame_some {map : FieldMap} {target : CallTarget} {depth limit : UInt32}
    {child : Frame} (h : target.childFrame map depth limit = .ok (some child)) :
    ∃ e, target.resolve? map = some e ∧ e.isExecutable = true ∧ depth + 1 ≤ limit ∧
      Frame.ofEvent? (depth + 1) map.id e = some child := by
  unfold CallTarget.childFrame at h
  split at h
  case h_1 => cases h
  case h_2 e htarget =>
    split at h
    case isTrue => cases h
    case isFalse hexecutable =>
      split at h
      case isTrue => cases h
      case isFalse hdeep =>
        exact ⟨e, htarget, by simpa using hexecutable, UInt32.not_lt.mp hdeep, Except.ok.inj h⟩

section

variable (limit : UInt32) (top : Frame) (below : FrameStack) (w : World)

/-- A frame that stays where it is has gone on. -/
theorem Frame.GoesOn.refl : top.GoesOn top := ⟨rfl, rfl, rfl, rfl, id⟩

/-- The lines that continue a script are lines of its list. -/
theorem length_scriptLines_le (list : List Instruction) :
    (scriptLines list).length ≤ list.length := by
  induction list with
  | nil => exact Nat.le_refl _
  | cons i rest ih =>
    rw [scriptLines]
    split
    · exact Nat.succ_le_succ ih
    · exact Nat.zero_le _

/-- The frame behind the lines of a script has gone on. -/
theorem Frame.pastScript_goesOn : top.GoesOn top.pastScript := by
  refine ⟨rfl, rfl, rfl, rfl, fun hwithin => ?_⟩
  have hlines := length_scriptLines_le (top.list.drop top.cursor)
  rw [List.length_drop] at hlines
  simp only [Frame.Within, Frame.pastScript] at hwithin ⊢
  omega

section

variable (c : CommonEvent)

/-- Calling a common event changes nothing of the world. -/
theorem Frame.callCommon_world : (top.callCommon limit below c w).world = w := by
  unfold Frame.callCommon
  simp only
  split <;> rfl

/-- Calling a common event does not end the tick, unless it is too deep. -/
theorem Frame.callCommon_flow : (top.callCommon limit below c w).flow ≠ .yield := by
  unfold Frame.callCommon
  simp only
  split <;> simp

/-- Calling a common event puts its frame on the stack, unless it is too deep. -/
theorem Frame.callCommon_leaves {id : UInt32} (hcommon : w.tables.commonEvent? id = some c) :
    top.Leaves limit w below (top.callCommon limit below c w).frames := by
  unfold Frame.callCommon
  by_cases hdeep : limit < top.depth + 1
  · simp only [if_pos hdeep]
    exact .goesOn (.refl top)
  · simp only [if_neg hdeep]
    exact .called (.refl top) (.common hcommon (UInt32.not_lt.mp hdeep))

/-- Calling a common event reads nothing of the frames that wait. -/
theorem Frame.callCommon_append (lower : FrameStack) :
    top.callCommon limit (below ++ lower) c w =
      { top.callCommon limit below c w with
        frames := (top.callCommon limit below c w).frames ++ lower } := by
  unfold Frame.callCommon
  simp only
  split <;> rfl

end

section

variable (line : String)

/-- A script changes the world by steps, and puts at most one child on the stack. -/
theorem Frame.callScript_spec :
    World.Steps w (top.callScript limit below line w).world ∧
      top.Leaves limit w below (top.callScript limit below line w).frames := by
  unfold Frame.callScript
  obtain ⟨⟨result, w'⟩, hrun⟩ : ∃ answer, runScript (top.scriptText line)
    { depth := top.depth, limit, event := top.event } w = answer := ⟨_, rfl⟩
  rw [hrun]
  obtain ⟨s, hsteps, rfl, hchild⟩ := runScript_steps hrun
  have hon := top.pastScript_goesOn
  rcases result with _ | _ | child
  · exact ⟨hsteps.world_steps, .goesOn hon⟩
  · exact ⟨hsteps.world_steps, .goesOn hon⟩
  · obtain ⟨target, htarget⟩ := hsteps.child_of (hchild _ rfl)
    exact ⟨hsteps.world_steps, .called hon (.event htarget)⟩

/-- A script does not end the tick, unless it fails. -/
theorem Frame.callScript_flow : (top.callScript limit below line w).flow ≠ .yield := by
  unfold Frame.callScript
  generalize runScript _ _ w = answer
  rcases answer with ⟨_ | _ | _, _⟩ <;> simp [Frame.afterScript]

/-- A script reads nothing of the frames that wait. -/
theorem Frame.callScript_append (lower : FrameStack) :
    top.callScript limit (below ++ lower) line w =
      { top.callScript limit below line w with
        frames := (top.callScript limit below line w).frames ++ lower } := by
  unfold Frame.callScript
  generalize runScript _ _ w = answer
  rcases answer with ⟨_ | _ | _, _⟩ <;> rfl

end

/-- Setting a switch is a step of the world, also if it only asks for a refresh. -/
theorem Frame.assignSwitch_steps (assignment : Option (String × Bool)) :
    World.Steps w (top.assignSwitch assignment w) := by
  unfold Frame.assignSwitch
  split
  · split
    · exact .single .refresh
    · exact .single (.assign ..)
  · exact .single .refresh

variable (c : Command)

/-- A command changes the world by steps. -/
theorem Command.execute_steps : World.Steps w (c.execute limit top below w).world := by
  cases c with
  | finish | comment | wait | exit | scriptLine | unsupported => exact .refl
  | callCommon id =>
    simp only [Command.execute]
    split
    · exact .refl
    · rw [Frame.callCommon_world]
  | setSelfSwitch assignment => exact top.assignSwitch_steps w assignment
  | transfer request =>
    cases request with
    | none => exact .refl
    | some request => exact .single (.transfer request)
  | script line => exact (top.callScript_spec limit below w line).1

/-- A command changes the stack only at its top. -/
theorem Command.execute_leaves :
    top.Leaves limit w below (c.execute limit top below w).frames := by
  cases c with
  | comment | scriptLine | unsupported | setSelfSwitch => exact .goesOn (.refl top)
  | finish outermost =>
    cases outermost
    · exact .goesOn (.refl top)
    · exact .ended
  | wait ticks => exact .goesOn ⟨rfl, rfl, rfl, rfl, id⟩
  | exit => exact .ended
  | callCommon id =>
    simp only [Command.execute]
    split
    · exact .goesOn (.refl top)
    · rename_i c hcommon
      obtain ⟨id, -, hcommon⟩ := Option.bind_eq_some_iff.mp hcommon
      exact top.callCommon_leaves limit below w c hcommon
  | transfer request => cases request <;> exact .goesOn (.refl top)
  | script line => exact (top.callScript_spec limit below w line).2

/-- Only a transfer that can be carried out ends the tick without a fault. -/
theorem Command.execute_flow :
    (c.execute limit top below w).flow = .yield ↔ ∃ request, c = .transfer (some request) := by
  cases c with
  | callCommon id =>
    simp only [Command.execute, reduceCtorEq, exists_false, iff_false]
    split
    · simp
    · exact top.callCommon_flow limit below w _
  | transfer request => cases request <;> simp [Command.execute]
  | script line =>
    simp only [reduceCtorEq, exists_false, iff_false]
    exact top.callScript_flow limit below w line
  | _ => simp [Command.execute]

/-- A command neither reads nor changes the frames that wait. -/
theorem Command.execute_append (lower : FrameStack) :
    c.execute limit top (below ++ lower) w =
      { c.execute limit top below w with
        frames := (c.execute limit top below w).frames ++ lower } := by
  cases c with
  | finish outermost => cases outermost <;> rfl
  | transfer request => cases request <;> rfl
  | callCommon id =>
    simp only [Command.execute]
    split
    · rfl
    · exact top.callCommon_append limit below w _ lower
  | script line => exact top.callScript_append limit below w line lower
  | _ => rfl

end

end Overworld
