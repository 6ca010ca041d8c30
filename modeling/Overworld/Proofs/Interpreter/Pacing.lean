import Overworld.Proofs.Interpreter.Owners

/-!
# Pacing

The budget of a tick only says where the tick stops. Two ticks of which the first has spent its
budget do what a single one does that has both budgets, and a budget that is not spent could as
well be larger.
-/

namespace Overworld

namespace Moment

/-- The moment with more commands left. -/
def more (b : Nat) (m : Moment) : Moment := { m with left := m.left + b }

/-- A moment with a command left has one left with more. -/
theorem more_succ (b left : Nat) (frames : FrameStack) (w : World) :
    more b ⟨left + 1, frames, w⟩ = ⟨left + b + 1, frames, w⟩ := by
  rw [more, Nat.add_right_comm]

section

variable {limit : UInt32}

/-- A turn of the loop is the same with more commands left. -/
theorem Turns.more {m m' : Moment} (b : Nat) (h : m.Turns limit m') :
    (m.more b).Turns limit (m'.more b) := by
  cases h with
  | drop hwait hdone =>
    rw [more_succ, more_succ]
    exact .drop hwait hdone
  | execute hwait hnext hflow =>
    rw [more_succ]
    exact .execute hwait hnext hflow

/-- The turns of a tick are the same with more commands left. -/
theorem Leads.more {m m' : Moment} (b : Nat) (h : m.Leads limit m') :
    (m.more b).Leads limit (m'.more b) := by
  induction h with
  | refl => exact .refl
  | tail _ hturn ih => exact ih.tail (hturn.more b)

/-- A tick stops because its budget is spent, or it would stop with more commands left as well. It
yields then only for a transfer, which is the last command. -/
theorem Ends.spent_or_more {m : Moment} {t : Tick} (h : m.Ends limit t) :
    (m.left = 0 ∧ m.frames ≠ [] ∧ t = ⟨.ok .yielded, m.frames, m.world⟩) ∨
      ((∀ b, (m.more b).Ends limit t) ∧ (t.result = .ok .yielded →
        ∃ request, m.commands limit = [.transfer (some request)])) := by
  cases h with
  | spent hwait => exact .inl ⟨rfl, List.cons_ne_nil _ _, rfl⟩
  | finished => exact .inr ⟨fun b => .finished, fun hyielded => by cases hyielded⟩
  | waiting hwait => exact .inr ⟨fun b => .waiting hwait, fun hyielded => by cases hyielded⟩
  | @transfers left top below w i hwait hnext hflow =>
    right
    refine ⟨fun b => ?_, fun _ => ?_⟩
    · rw [more_succ]
      exact .transfers hwait hnext hflow
    · obtain ⟨request, hcommand⟩ := effect_flow.mp hflow
      have hstops : (effect limit top below w i).flow ≠ .go := by simp [hflow]
      rw [commands_execute hwait hnext, if_neg hstops, hcommand]
      exact ⟨request, rfl⟩
  | fails hwait hnext hflow =>
    right
    refine ⟨fun b => ?_, fun hyielded => by cases hyielded⟩
    rw [more_succ]
    exact .fails hwait hnext hflow

end

end Moment

namespace Interpreter

/-- A tick that stops because its budget is spent: it yields, and not for a transfer. -/
def SpendsBudget (i : Interpreter) (w : World) : Prop :=
  (i.tick w).result = .ok .yielded ∧
    ∀ request, (i.commands w).getLast? ≠ some (.transfer (some request))

/-- The budget of a tick is only pacing. A tick that has spent its budget and another one after it
lead to what a single tick with both budgets leads to, and a tick that has not spent its budget
leads to the same with a larger one. -/
theorem tick_withBudget_add (i : Interpreter) (w : World) (a b : Nat) :
    let first := (i.withBudget a).tick w
    let whole := (i.withBudget (a + b)).tick w
    ((i.withBudget a).SpendsBudget w →
      ({ i with frames := first.frames }.withBudget b).tick first.world = whole) ∧
    (¬ (i.withBudget a).SpendsBudget w → first = whole) := by
  intro first whole
  by_cases hempty : i.frames = []
  · have hfirst : first = ⟨.ok .idle, [], w⟩ := tick_idle w hempty
    have hwhole : whole = ⟨.ok .idle, [], w⟩ := tick_idle w hempty
    refine ⟨fun hspends => ?_, fun _ => hfirst.trans hwhole.symm⟩
    have hyielded : first.result = .ok .yielded := hspends.1
    rw [hfirst] at hyielded
    cases hyielded
  · obtain ⟨m, hleads, hends⟩ := Moment.exists_ends i.maxDepth ((i.withBudget a).opening w)
    have hfirst : first = ((i.withBudget a).opening w).run i.maxDepth := tick_eq_run w hempty
    have hwhole : whole = ((i.withBudget (a + b)).opening w).run i.maxDepth := tick_eq_run w hempty
    have hmore : whole = (m.more b).run i.maxDepth := hwhole.trans (hleads.more b).run_eq
    obtain ⟨before, hcommands, -, hno⟩ := hleads.commands_eq
    have hcommands : (i.withBudget a).commands w = before ++ m.commands i.maxDepth := hcommands
    rw [← hfirst] at hends
    rcases hends.spent_or_more with ⟨hleft, hrunning, hspent⟩ | ⟨hsame, htransfer⟩
    · have hlast : m.commands i.maxDepth = [] := by rw [Moment.commands, hleft, Moment.executed]
      rw [hlast, List.append_nil] at hcommands
      have hspends : (i.withBudget a).SpendsBudget w := by
        refine ⟨congrArg Tick.result hspent, fun request hrequest => hno request ?_⟩
        exact hcommands ▸ List.mem_of_getLast? hrequest
      refine ⟨fun _ => ?_, fun hnot => absurd hspends hnot⟩
      -- The check at the beginning of the second tick finds the stack that the first one has left.
      have hanchored : first.frames.Anchored first.world.map := tick_anchored w hempty
      rw [hspent] at hanchored
      rw [hspent, hmore, tick_eq_run _ hrunning, opening, Moment.more, hleft, Nat.zero_add]
      exact congrArg (fun frames => Moment.run _ ⟨b, frames, m.world⟩) hanchored.revalidate_eq
    · refine ⟨fun hspends => ?_, fun _ => ((hsame b).run_eq ▸ hmore).symm⟩
      obtain ⟨request, hrequest⟩ := htransfer hspends.1
      refine absurd ?_ (hspends.2 request)
      rw [hcommands, hrequest, List.getLast?_concat]

/-- A budget of one command is spent on the first of two comments. -/
example : SpendsBudget
    { maxDepth := 9, commandsPerTick := 1
      frames := [{ depth := 0, list := [{ code := 108 }, { code := 108 }] }] } default :=
  ⟨rfl, fun _ hlast => by cases hlast⟩

end Interpreter

end Overworld
