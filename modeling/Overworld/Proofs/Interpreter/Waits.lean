import Overworld.Proofs.Interpreter.Budget
import Overworld.Proofs.Interpreter.Suspension

/-!
# Waits

A wait stops the tick that executes it, also at the end of a list or where it uses up the budget,
and takes up every tick until it has run out. While it lasts nothing else happens: the frames below
stand still, and the check of the map at the beginning of each tick finds nothing to cut or to bind
again, because the tick before has left only frames that belong to what is there.
-/

namespace Overworld

/-- A wait holds the list for its parameter, brought into the range of a counter of 32 bits. -/
theorem Instruction.command_of_wait {i : Instruction} {p : Int} (hcode : i.code = 106)
    (hparameter : i.intParameter? 0 = some p) :
    i.command = .wait (max 0 (min p 4294967295)).toNat := by
  have hticks : min p.toNat 4294967295 = (max 0 (min p 4294967295)).toNat := by omega
  have hcode : i.code.toInt = 106 := by rw [hcode]; rfl
  simp only [Instruction.command, hcode, hparameter, Option.getD_some, hticks]

/-- How long the frame on top waits does not matter for what a stack belongs to. -/
theorem FrameStack.anchored_waiting_iff {map : FieldMap} {top : Frame} {below : FrameStack}
    {ticks : Nat} :
    FrameStack.Anchored map ({ top with wait := ticks } :: below) ↔
      FrameStack.Anchored map (top :: below) := by
  simp only [FrameStack.Anchored, List.forall_mem_cons]
  rfl

namespace Moment

variable {limit : UInt32} {left : Nat} {top : Frame} {below : FrameStack} {w : World} {i : Instruction}

/-- A command that waits does nothing but set the frame on top to wait, and the tick goes on. -/
theorem effect_of_wait {ticks : Nat} (hcommand : i.command = .wait ticks) :
    effect limit top below w i =
      ⟨{ top with cursor := top.cursor + 1, wait := ticks } :: below, w, .go⟩ := by
  simp only [effect, hcommand, Command.execute]

/-- A wait of no ticks does to a frame what a comment does. -/
theorem effect_of_wait_zero {comment : Instruction} (hwait : top.wait = 0)
    (hcommand : i.command = .wait 0) (hcomment : comment.command = .comment) :
    effect limit top below w i = effect limit top below w comment := by
  rw [effect_of_wait hcommand]
  simp only [effect, hcomment, Command.execute, hwait]

/-- A turn of the loop that executes a wait. -/
theorem turns_of_wait {ticks : Nat} (hwait : top.wait = 0)
    (hnext : top.list[top.cursor]? = some i) (hcommand : i.command = .wait ticks) :
    Turns limit ⟨left + 1, top :: below, w⟩
      ⟨left, { top with cursor := top.cursor + 1, wait := ticks } :: below, w⟩ :=
  turns_of_effect hwait hnext (effect_of_wait hcommand)

end Moment

namespace Interpreter

/-- An interpreter with a frame on top of some others that has a number of ticks left to wait. -/
def holding (i : Interpreter) (top : Frame) (below : FrameStack) (ticks : Nat) : Interpreter :=
  { i with frames := { top with wait := ticks } :: below }

variable {i : Interpreter} {w w₁ : World} {top : Frame} {below : FrameStack}

/-- Only an interpreter that runs something comes to a moment at which it runs something. -/
theorem frames_ne_nil_of_leads {m : Moment} (hleads : (i.opening w).Leads i.maxDepth m)
    (hrunning : m.frames ≠ []) : i.frames ≠ [] := by
  intro hempty
  have hopening : (i.opening w).frames = [] := by
    simp only [opening, hempty]
    rfl
  rcases hleads.cases_head with heq | ⟨m', hturn, -⟩
  · rw [heq] at hopening
    exact hrunning hopening
  · exact hturn.frames_ne_nil hopening

section

variable (hanchored : FrameStack.Anchored w.map (top :: below))
include hanchored

/-- The check at the beginning of a tick leaves frames alone that belong to what is there, however
long they wait. -/
theorem opening_holding (ticks : Nat) :
    (i.holding top below ticks).opening w =
      ⟨i.commandsPerTick, { top with wait := ticks } :: below, w⟩ := by
  have hheld : FrameStack.Anchored w.map ({ top with wait := ticks } :: below) :=
    FrameStack.anchored_waiting_iff.mpr hanchored
  exact congrArg (Moment.mk i.commandsPerTick · w) hheld.revalidate_eq

/-- A tick with a waiting frame on top only counts down. -/
theorem update_holding (ticks : Nat) :
    (i.holding top below (ticks + 1)).update w = (.ok .waiting, i.holding top below ticks, w) := by
  have hends : ((i.holding top below (ticks + 1)).opening w).Ends i.maxDepth
      ⟨.ok .waiting, { top with wait := ticks } :: below, w⟩ := by
    rw [opening_holding hanchored]
    exact .waiting (Nat.succ_ne_zero ticks)
  have htick : (i.holding top below (ticks + 1)).tick w =
      ⟨.ok .waiting, { top with wait := ticks } :: below, w⟩ := by
    rw [tick_eq_run w (List.cons_ne_nil _ _)]
    exact hends.run_eq
  rw [update_eq, htick]
  rfl

/-- As many ticks as the frame on top has left to wait only count down. -/
theorem after_holding {ticks k : Nat} (hk : k ≤ ticks) :
    (i.holding top below ticks).after w k = (i.holding top below (ticks - k), w) := by
  induction k with
  | zero => rfl
  | succ k ih =>
    have hleft : ticks - k = ticks - (k + 1) + 1 := by omega
    rw [after, ih (by omega), hleft, update_holding hanchored]

end

/-- **A wait holds the whole stack for exactly its length.** Take a tick that comes to execute a
wait with a parameter, with whatever budget left and whatever frames below, and let `n` be the
parameter, brought into the range of the counter. If `n` is not 0, then `n` updates in a row are
waiting, the one that executes the command and those after it, and each leaves the stack with one
tick less to wait for the frame on top and everything else of the stack and of the world as it was.
The update after them begins with its whole budget and with that frame on top, which no longer waits
and goes on right behind the command. If `n` is 0, the tick goes on in the moment behind the
command, to which a comment would have led as well. -/
theorem wait_holds_stack {left : Nat} {instruction : Instruction} {p : Int}
    (hleads : (i.opening w).Leads i.maxDepth ⟨left + 1, top :: below, w₁⟩)
    (hready : top.wait = 0) (hnext : top.list[top.cursor]? = some instruction)
    (hcode : instruction.code = 106) (hparameter : instruction.intParameter? 0 = some p) :
    let n := (max 0 (min p 4294967295)).toNat
    let behind : Frame := { top with cursor := top.cursor + 1 }
    let resumed : Moment := ⟨i.commandsPerTick, behind :: below, w₁⟩
    (0 < n →
      (∀ k < n, (i.after w k).1.update (i.after w k).2 =
        (.ok .waiting, i.holding behind below (n - 1 - k), w₁)) ∧
      (i.after w n).1.tick (i.after w n).2 = resumed.run i.maxDepth ∧
      resumed.next? = top.list[top.cursor + 1]?) ∧
    (n = 0 →
      i.tick w = Moment.run i.maxDepth ⟨left, behind :: below, w₁⟩ ∧
      ∀ comment : Instruction, comment.command = .comment →
        Moment.effect i.maxDepth top below w₁ instruction =
          Moment.effect i.maxDepth top below w₁ comment) := by
  intro n behind resumed
  have hcommand : instruction.command = .wait n :=
    Instruction.command_of_wait hcode hparameter
  have hrunning : i.frames ≠ [] := frames_ne_nil_of_leads hleads (List.cons_ne_nil _ _)
  have hbehind : ({ behind with wait := 0 } : Frame) = behind := by rw [← hready]
  have hturn : Moment.Turns i.maxDepth ⟨left + 1, top :: below, w₁⟩
      ⟨left, { behind with wait := n } :: below, w₁⟩ := Moment.turns_of_wait hready hnext hcommand
  have htick : i.tick w = Moment.run i.maxDepth ⟨left, { behind with wait := n } :: below, w₁⟩ :=
    (tick_eq_run w hrunning).trans (Moment.Leads.run_eq (hleads.tail hturn))
  constructor
  · intro hpos
    have hends : Moment.Ends i.maxDepth ⟨left, { behind with wait := n } :: below, w₁⟩
        ⟨.ok .waiting, { behind with wait := n - 1 } :: below, w₁⟩ := .waiting (Nat.ne_of_gt hpos)
    rw [hends.run_eq] at htick
    have hfirst : i.update w = (.ok .waiting, i.holding behind below (n - 1), w₁) := by
      rw [update_eq, htick]
      rfl
    -- The tick leaves only frames that the checks of the later ticks leave as they are.
    have hanchored : FrameStack.Anchored w₁.map (behind :: below) := by
      have hleft := tick_anchored w hrunning
      rw [htick] at hleft
      exact FrameStack.anchored_waiting_iff.mp hleft
    have hlater : ∀ k < n, i.after w (k + 1) = (i.holding behind below (n - 1 - k), w₁) := by
      intro k hk
      rw [after_succ, hfirst]
      exact after_holding hanchored (Nat.le_sub_one_of_lt hk)
    refine ⟨fun k hk => ?_, ?_, ?_⟩
    · cases k with
      | zero => exact hfirst
      | succ k =>
        have hleft : n - 1 - k = n - 1 - (k + 1) + 1 := by omega
        rw [hlater k (by omega), hleft, update_holding hanchored]
    · have hlast : i.after w n = (i.holding behind below 0, w₁) := by
        have hover := hlater (n - 1) (by omega)
        rwa [Nat.sub_add_cancel hpos, Nat.sub_self] at hover
      rw [hlast, tick_eq_run w₁ (List.cons_ne_nil _ _), opening_holding hanchored, hbehind]
      rfl
    · -- The budget of every tick has a command, since the wait was one.
      obtain ⟨before, -, hbudget, -⟩ := hleads.commands_eq
      have hbudget : i.commandsPerTick = before.length + left + 1 := hbudget
      simp only [resumed, behind, hbudget, Moment.next?, hready, if_true]
  · intro hzero
    rw [hzero] at htick hcommand
    rw [hbehind] at htick
    exact ⟨htick, fun comment hcomment => Moment.effect_of_wait_zero hready hcommand hcomment⟩

/-- A list that waits for two ticks at its end. -/
private def chime : List Instruction := [{ code := 108 }, { code := 106, parameters := [.int 2] }]

/-- The world of a bell with that list. -/
private def bellWorld : World :=
  { map := { id := 7, events := .ofList [.ofList 1 "bell" chime] }, tables := {} }

/-- The frames of the bell, which another list has called. -/
private def bell : Interpreter :=
  { maxDepth := 9, commandsPerTick := 2
    frames :=
      [{ depth := 1, source := .mapEvent 7 1, event := 1, list := chime },
        { depth := 0, list := [{ code := 108 }] }] }

/-- The wait of the bell uses up the budget of its tick. It holds that tick and the next one, and in
the third the list that has called the bell comes to its end. -/
theorem wait_holds_stack_bell :
    (bell.update bellWorld).1 = .ok .waiting ∧
      ((bell.after bellWorld 1).1.update (bell.after bellWorld 1).2).1 = .ok .waiting ∧
      (bell.after bellWorld 2).1.frames.map (fun f => (f.cursor, f.wait)) = [(2, 0), (0, 0)] ∧
      ((bell.after bellWorld 2).1.tick (bell.after bellWorld 2).2).result = .ok .finished := by
  have hopening : bell.opening bellWorld = ⟨1 + 1, bell.frames, bellWorld⟩ := rfl
  have hcomment : Moment.Turns bell.maxDepth (bell.opening bellWorld)
      ⟨0 + 1, [{ depth := 1, source := .mapEvent 7 1, event := 1, list := chime, cursor := 1 },
        { depth := 0, list := [{ code := 108 }] }], bellWorld⟩ := by
    rw [hopening]
    exact .execute (i := { code := 108 }) rfl rfl rfl
  obtain ⟨hholds, -⟩ := wait_holds_stack (.single hcomment) rfl rfl rfl rfl
  obtain ⟨hwaits, hresumes, -⟩ := hholds (by decide)
  have hfirst := hwaits 0 (by decide)
  have hsecond := hwaits 1 (by decide)
  have hthird : bell.after bellWorld 2 = _ := congrArg Prod.snd hsecond
  refine ⟨congrArg Prod.fst hfirst, congrArg Prod.fst hsecond, ?_, ?_⟩
  · rw [hthird]
    rfl
  · have hend : ((bell.after bellWorld 2).1.tick (bell.after bellWorld 2).2).result = _ :=
      congrArg Tick.result hresumes
    rw [hend]
    rfl

end Interpreter

end Overworld
