import Overworld.Proofs.Interpreter.Loop

/-!
# The slot for a transfer

A command that asks for a transfer puts its request into a slot of the world, and ends the tick.
Nothing else writes there: scripts cannot ask for a transfer, and a transfer that cannot be carried
out asks for nothing. So what a tick leaves in the slot is what was there, or the request of the
last command that it has executed.
-/

namespace Overworld

/-- Scripts leave the slot alone. -/
theorem ScriptState.Steps.transfer_eq {caller : ScriptCaller} {s s' : ScriptState}
    (h : ScriptState.Steps caller s s') : s'.world.transfer = s.world.transfer := by
  induction h with
  | refl => rfl
  | tail _ hstep ih => cases hstep <;> exact ih

section

variable (limit : UInt32) (top : Frame) (below : FrameStack) (w : World)

/-- Running a script leaves the slot alone, also if the script fails. -/
theorem Frame.callScript_transfer (line : String) :
    (top.callScript limit below line w).world.transfer = w.transfer := by
  unfold Frame.callScript
  obtain ⟨⟨result, w'⟩, hrun⟩ : ∃ answer, runScript (top.scriptText line)
    { depth := top.depth, limit, event := top.event } w = answer := ⟨_, rfl⟩
  rw [hrun]
  obtain ⟨s, hsteps, rfl, -⟩ := runScript_steps hrun
  rcases result with _ | _ | child <;> exact hsteps.transfer_eq

/-- Setting a switch leaves the slot alone. -/
theorem Frame.assignSwitch_transfer (assignment : Option (String × Bool)) :
    (top.assignSwitch assignment w).transfer = w.transfer := by
  unfold Frame.assignSwitch
  split
  · split <;> rfl
  · rfl

/-- Only a transfer that can be carried out writes the slot. -/
theorem Command.execute_transfer {c : Command} (hno : ∀ request, c ≠ .transfer (some request)) :
    (c.execute limit top below w).world.transfer = w.transfer := by
  cases c with
  | finish | comment | scriptLine | unsupported | wait | exit => rfl
  | callCommon id =>
    simp only [Command.execute]
    split
    · rfl
    · rw [Frame.callCommon_world]
  | setSelfSwitch assignment => exact top.assignSwitch_transfer w assignment
  | transfer request =>
    cases request with
    | none => rfl
    | some request => exact absurd rfl (hno request)
  | script line => exact top.callScript_transfer limit below w line

end

namespace Moment

variable {limit : UInt32} {m m' : Moment}

/-- A command after which the tick does not end by itself leaves the slot alone. -/
theorem effect_transfer {top : Frame} {below : FrameStack} {w : World} {i : Instruction}
    (hflow : (effect limit top below w i).flow ≠ .yield) :
    (effect limit top below w i).world.transfer = w.transfer :=
  Command.execute_transfer limit _ below w fun request hrequest =>
    hflow (effect_flow.mpr ⟨request, hrequest⟩)

/-- The turns before the last one leave the slot alone. -/
theorem Leads.transfer_eq (h : m.Leads limit m') : m'.world.transfer = m.world.transfer := by
  induction h with
  | refl => rfl
  | tail _ hturn ih =>
    cases hturn with
    | drop => exact ih
    | execute _ _ hflow => exact (effect_transfer (by rw [hflow]; simp)).trans ih

/-- The last turn executes a transfer that can be carried out, or else it leaves the slot alone. -/
theorem Ends.slot {t : Tick} (h : m.Ends limit t) :
    (∀ request, .transfer (some request) ∉ m.commands limit) ∧
        t.world.transfer = m.world.transfer ∨
      ∃ request, m.commands limit = [.transfer (some request)] ∧ t.result = .ok .yielded ∧
        t.world.transfer = some request := by
  cases h with
  | @finished left w =>
    have hnone : commands limit ⟨left, [], w⟩ = [] := by cases left <;> rfl
    exact .inl ⟨fun request => by simp [hnone], rfl⟩
  | @waiting left top below w hwait =>
    have hnone : commands limit ⟨left, top :: below, w⟩ = [] := by
      cases left with
      | zero => rfl
      | succ left =>
        have hsettle : FrameStack.settle (top :: below) = top :: below :=
          settle_cons (by simp [hwait])
        simp only [commands, executed, hsettle, hwait, if_false]
    exact .inl ⟨fun request => by simp [hnone], rfl⟩
  | spent => exact .inl ⟨fun request => List.not_mem_nil, rfl⟩
  | @transfers left top below w i hwait hnext hflow =>
    obtain ⟨request, hrequest⟩ := effect_flow.mp hflow
    refine .inr ⟨request, ?_, rfl, ?_⟩
    · rw [commands_execute hwait hnext, hflow, if_neg (by simp), hrequest]
    · simp only [effect, hrequest, Command.execute]
  | @fails left top below w i fault hwait hnext hflow =>
    have hyield : (effect limit top below w i).flow ≠ .yield := by rw [hflow]; simp
    refine .inl ⟨fun request hmem => ?_, effect_transfer hyield⟩
    rw [commands_execute hwait hnext, hflow, if_neg (by simp), List.mem_singleton] at hmem
    exact hyield (effect_flow.mpr ⟨request, hmem.symm⟩)

end Moment

/-- **What a tick leaves in the slot.** If the tick executes a transfer that can be carried out, that
is its last command, the tick yields, and its request is in the slot. Otherwise the slot is as it
was before, however the tick ends. -/
theorem Interpreter.tick_transfer (i : Interpreter) (w : World) :
    (∀ request, .transfer (some request) ∉ i.commands w) ∧
        (i.tick w).world.transfer = w.transfer ∨
      ∃ before request, i.commands w = before ++ [.transfer (some request)] ∧
        (∀ other, .transfer (some other) ∉ before) ∧ (i.tick w).result = .ok .yielded ∧
        (i.tick w).world.transfer = some request := by
  by_cases hframes : i.frames = []
  · have hnone : i.commands w = [] := by
      simp only [commands, opening, Moment.commands, hframes]
      cases i.commandsPerTick <;> rfl
    rw [hnone, tick_idle w hframes]
    exact .inl ⟨fun _ => List.not_mem_nil, rfl⟩
  · obtain ⟨m, hleads, hends⟩ := Moment.exists_ends i.maxDepth (i.opening w)
    obtain ⟨before, hcommands, -, hbefore⟩ := hleads.commands_eq
    have hslot : m.world.transfer = w.transfer := hleads.transfer_eq
    rw [tick_eq_run w hframes, commands, hcommands]
    rcases hends.slot with ⟨hno, hkept⟩ | ⟨request, hlast, hresult, hrequest⟩
    · refine .inl ⟨fun request hmem => ?_, hkept.trans hslot⟩
      exact (List.mem_append.mp hmem).elim (hbefore request) (hno request)
    · exact .inr ⟨before, request, by rw [hlast], hbefore, hresult, hrequest⟩

end Overworld
