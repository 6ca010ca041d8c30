import Overworld.Interpreter.Tick

/-!
# Calls and the query before them

A host or a script may ask first whether a call of an event runs anything. The question and the call
look the event up independently of each other, and the call can fail as well, when it is too deep.
A target that is missing or has nothing to execute is told first, so only a call of something that
can be run is ever too deep. Depths are words: only as long as the level above the caller is one,
a call that is too deep is told from one that is not.
-/

namespace Overworld

/-- As long as the level above a depth is a word, it is one more. -/
theorem toNat_add_one {depth : UInt32} (h : depth.toNat + 1 < UInt32.size) :
    (depth + 1).toNat = depth.toNat + 1 := by
  rw [UInt32.toNat_add]
  exact Nat.mod_eq_of_lt h

/-- The frame that a call from some depth puts on the stack: it runs the active page of an event
from its beginning, one level deeper than the caller. -/
def CallTarget.CalledFrame (map : FieldMap) (target : CallTarget) (callerDepth : UInt32)
    (child : Frame) : Prop :=
  ∃ e list, target.resolve? map = some e ∧ e.list? = some list ∧
    child = { depth := callerDepth + 1, source := .mapEvent map.id e.id, event := e.id, list,
              cursor := 0, wait := 0 }

/-- The frame of a call is one level deeper than the caller. -/
theorem CallTarget.CalledFrame.depth_eq {map : FieldMap} {target : CallTarget}
    {callerDepth : UInt32} {child : Frame} (h : target.CalledFrame map callerDepth child) :
    child.depth = callerDepth + 1 := by
  obtain ⟨e, list, -, -, rfl⟩ := h
  rfl

/-- An event can be run if it is not erased and has an active page with an instruction that is more
than form. -/
theorem MapEvent.isExecutable_iff {e : MapEvent} :
    e.isExecutable = true ↔
      e.erased = false ∧ ∃ list, e.list? = some list ∧ ∃ i ∈ list, i.isStructural = false := by
  simp [MapEvent.isExecutable, Option.any_eq_true]

section

variable {map : FieldMap} {target : CallTarget}

/-- A target can be called if there is such an event and it can be run. -/
theorem CallTarget.canCall_iff :
    target.canCall map = true ↔ ∃ e, target.resolve? map = some e ∧ e.isExecutable = true := by
  rw [CallTarget.canCall, Option.any_eq_true]

/-- A target cannot be called if there is no such event or it has nothing to execute. -/
theorem CallTarget.canCall_eq_false_iff :
    target.canCall map = false ↔
      target.resolve? map = none ∨ ∃ e, target.resolve? map = some e ∧ e.isExecutable = false := by
  unfold CallTarget.canCall
  cases target.resolve? map with
  | none => simp
  | some e => simp

variable (callerDepth limit : UInt32)

/-- A call of what cannot be called runs nothing, however deep it is. -/
theorem CallTarget.childFrame_of_not_canCall (h : target.canCall map = false) :
    target.childFrame map callerDepth limit = .ok none := by
  unfold CallTarget.childFrame
  rcases CallTarget.canCall_eq_false_iff.mp h with hmissing | ⟨e, htarget, hnothing⟩
  · rw [hmissing]
  · simp only [htarget, hnothing, Bool.not_false, if_true]

/-- A call of what can be called puts its frame on the stack, or it is too deep. -/
theorem CallTarget.childFrame_of_canCall (h : target.canCall map = true) :
    ∃ child, target.CalledFrame map callerDepth child ∧
      target.childFrame map callerDepth limit =
        if limit < callerDepth + 1 then .error (.callTooDeep (callerDepth + 1) limit)
        else .ok (some child) := by
  obtain ⟨e, htarget, hexecutable⟩ := CallTarget.canCall_iff.mp h
  obtain ⟨-, list, hlist, -⟩ := MapEvent.isExecutable_iff.mp hexecutable
  refine ⟨_, ⟨e, list, htarget, hlist, rfl⟩, ?_⟩
  simp only [CallTarget.childFrame, htarget, hexecutable, Bool.not_true, Bool.false_eq_true,
    if_false, Frame.ofEvent?, hlist, Option.map_some]

/-- What a call comes to: nothing, the frame of its target, or a fault. -/
theorem CallTarget.childFrame_spec (map : FieldMap) (target : CallTarget) :
    match target.childFrame map callerDepth limit with
    | .ok none => target.canCall map = false
    | .ok (some child) => target.canCall map = true ∧ callerDepth + 1 ≤ limit ∧
        target.CalledFrame map callerDepth child
    | .error fault => target.canCall map = true ∧ limit < callerDepth + 1 ∧
        fault = .callTooDeep (callerDepth + 1) limit := by
  cases hquery : target.canCall map with
  | false => rw [CallTarget.childFrame_of_not_canCall _ _ hquery]
  | true =>
    obtain ⟨child, hcalled, hchild⟩ := CallTarget.childFrame_of_canCall callerDepth limit hquery
    rw [hchild]
    by_cases hdeep : limit < callerDepth + 1
    · rw [if_pos hdeep]
      exact ⟨rfl, hdeep, rfl⟩
    · rw [if_neg hdeep]
      exact ⟨rfl, UInt32.not_lt.mp hdeep, hcalled⟩

end

namespace Interpreter

variable (i : Interpreter) (map : FieldMap) (target : CallTarget)

/-- A call of what cannot be called answers so and changes nothing. -/
theorem call_of_not_canCall (h : target.canCall map = false) :
    i.call map target = (.ok false, i) := by
  rw [call, CallTarget.childFrame_of_not_canCall _ _ h]

/-- A call of what can be called puts a frame on the stack, or it is too deep and changes
nothing. -/
theorem call_of_canCall (h : target.canCall map = true) :
    ∃ child, target.CalledFrame map i.depth child ∧
      i.call map target =
        if i.maxDepth < i.depth + 1 then (.error (.callTooDeep (i.depth + 1) i.maxDepth), i)
        else (.ok true, { i with frames := child :: i.frames }) := by
  obtain ⟨child, hcalled, hchild⟩ := CallTarget.childFrame_of_canCall i.depth i.maxDepth h
  refine ⟨child, hcalled, ?_⟩
  rw [call, hchild]
  by_cases hdeep : i.maxDepth < i.depth + 1
  · rw [if_pos hdeep, if_pos hdeep]
  · rw [if_neg hdeep, if_neg hdeep]

/-- A call counts: it puts the frame of its target, and no other, on the stack, one level deeper and
within the limit, and says so. Or it is deeper than the limit, reports that, and leaves the stack
alone. -/
inductive CallCounts : Prop
  | called {child : Frame} (hlimit : i.depth.toNat + 1 ≤ i.maxDepth.toNat)
      (hchild : target.CalledFrame map i.depth child)
      (hdepth : child.depth.toNat = i.depth.toNat + 1)
      (hcall : i.call map target = (.ok true, { i with frames := child :: i.frames }))
  | tooDeep {depth : UInt32} (hlimit : i.maxDepth.toNat < i.depth.toNat + 1)
      (hdepth : depth.toNat = i.depth.toNat + 1)
      (hcall : i.call map target = (.error (.callTooDeep depth i.maxDepth), i))

/-- A call of what can be called counts, as long as the level above the interpreter's is a word. -/
theorem callCounts_of_canCall (hdepth : i.depth.toNat + 1 < UInt32.size)
    (h : target.canCall map = true) : i.CallCounts map target := by
  obtain ⟨child, hchild, hcall⟩ := i.call_of_canCall map target h
  have hlevel := toNat_add_one hdepth
  by_cases hdeep : i.maxDepth < i.depth + 1
  · rw [if_pos hdeep] at hcall
    exact .tooDeep (hlevel ▸ UInt32.lt_iff_toNat_lt.mp hdeep) hlevel hcall
  · rw [if_neg hdeep] at hcall
    have hlimit := UInt32.le_iff_toNat_le.mp (UInt32.not_lt.mp hdeep)
    exact .called (hlevel ▸ hlimit) hchild (hchild.depth_eq ▸ hlevel) hcall

variable {i map target} in
/-- A call that counts does not answer that nothing was called. -/
theorem CallCounts.answer_ne (h : i.CallCounts map target) :
    (i.call map target).1 ≠ .ok false := by
  cases h with
  | called _ _ _ hcall | tooDeep _ _ hcall => simp [hcall]

/-- A map with a sign, which is nothing but a comment, and a gate. -/
private def courtyard : FieldMap :=
  { events := Roster.ofList [MapEvent.ofList 2 "sign" [{ code := 108 }],
      MapEvent.ofList 3 "gate" [{ code := 106 }]] }

/-- At the limit a call of the sign is not too deep, and one of the gate is. -/
example :
    let i : Interpreter := { baseDepth := 4, maxDepth := 4, commandsPerTick := 1 }
    (i.call courtyard (.name "sign")).1 = .ok false ∧
      (i.call courtyard (.name "gate")).1 = .error (.callTooDeep 5 4) := by
  exact ⟨rfl, rfl⟩

end Interpreter

end Overworld
