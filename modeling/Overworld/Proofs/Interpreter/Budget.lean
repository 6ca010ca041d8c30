import Mathlib.Data.List.Chain
import Overworld.Proofs.Interpreter.Nesting

/-!
# What a tick costs

Common events and events may call each other in circles, and a list may be empty, so neither the
lists nor the stack bound a tick. Nothing is bounded by the budget alone either, because dropping a
frame is free. But a command uses up one of the budget and puts at most one frame on the stack,
which is dropped at most once: what is left of the budget, counted twice, and the height of the
stack together become less whenever the loop goes around.
-/

namespace Overworld

namespace Moment

/-- The instruction that the loop executes when it goes around at a moment, if it executes one. -/
def next? : Moment → Option Instruction
  | ⟨_ + 1, top :: _, _⟩ => if top.wait = 0 then top.list[top.cursor]? else none
  | _ => none

/-- How often the loop can still go around before its last turn. -/
def credit (m : Moment) : Nat := 2 * m.left + m.frames.length

section

variable {limit : UInt32}

/-- Only with a command left an instruction is executed. -/
theorem left_pos_of_next? {m : Moment} {i : Instruction} (h : m.next? = some i) : 0 < m.left := by
  obtain ⟨_ | left, frames, w⟩ := m
  · simp [next?] at h
  · exact Nat.succ_pos left

/-- A command leaves the frames below the running one as they are, and puts at most one frame upon
them besides the running one. -/
theorem effect_leaves (top : Frame) (below : FrameStack) (w : World) (i : Instruction) :
    Frame.Leaves limit w { top with cursor := top.cursor + 1 } below
      (effect limit top below w i).frames :=
  Command.execute_leaves ..

/-- A command makes the stack higher by at most one frame. -/
theorem length_effect_le (top : Frame) (below : FrameStack) (w : World) (i : Instruction) :
    (effect limit top below w i).frames.length ≤ below.length + 2 := by
  have hleaves : Frame.Leaves limit w _ below (effect limit top below w i).frames :=
    effect_leaves top below w i
  generalize (effect limit top below w i).frames = frames at hleaves ⊢
  cases hleaves <;> simp

/-- A turn that executes an instruction uses up one command, and any other turn none. -/
theorem Turns.left_eq {m m' : Moment} (h : m.Turns limit m') :
    m.left = m'.left + if m.next?.isSome then 1 else 0 := by
  cases h with
  | drop hwait hdone => simp [next?, hdone]
  | execute hwait hnext hflow => simp [next?, hwait, hnext]

/-- Every turn of the loop uses up some of the credit. -/
theorem Turns.credit_lt {m m' : Moment} (h : m.Turns limit m') : m'.credit < m.credit := by
  cases h with
  | drop hwait hdone => simp [credit]
  | @execute left top below w i hwait hnext hflow =>
    have hheight : (effect limit top below w i).frames.length ≤ below.length + 2 :=
      length_effect_le top below w i
    simp only [credit, List.length_cons]
    omega

/-- However far the loop has come, it has not gone around more often than it had credit for. -/
theorem length_le_credit {m : Moment} {later : List Moment}
    (h : (m :: later).IsChain (Turns limit)) : (m :: later).length ≤ m.credit + 1 := by
  induction later generalizing m with
  | nil => simp
  | cons m' later ih =>
    obtain ⟨hturn, hrest⟩ := List.isChain_cons_cons.mp h
    have hcredit := hturn.credit_lt
    have hlength := ih hrest
    rw [List.length_cons]
    omega

/-- However far the loop has come, it has not executed more instructions than it had commands
left. -/
theorem length_executed_le {m : Moment} {later : List Moment}
    (h : (m :: later).IsChain (Turns limit)) : ((m :: later).filterMap next?).length ≤ m.left := by
  induction later generalizing m with
  | nil =>
    cases hnext : m.next? with
    | none => simp [hnext]
    | some i =>
      have hleft := left_pos_of_next? hnext
      simp [hnext]
      omega
  | cons m' later ih =>
    obtain ⟨hturn, hrest⟩ := List.isChain_cons_cons.mp h
    have hleft := hturn.left_eq
    have hexecuted := ih hrest
    rw [List.filterMap_cons]
    cases hnext : m.next? with
    | none =>
      simp only [hnext, Option.isSome_none, Bool.false_eq_true, if_false] at hleft
      simp only
      omega
    | some i =>
      simp only [hnext, Option.isSome_some, if_true] at hleft
      simp only [List.length_cons]
      omega

/-- At the last turn the instruction is executed that the tick executes last, if there is one. -/
theorem Ends.commands_eq {m : Moment} {t : Tick} (h : m.Ends limit t) :
    m.commands limit = (m.next?.map (·.command)).toList := by
  cases h with
  | @finished left w => cases left <;> rfl
  | @waiting left top below w hwait =>
    have hsettle : FrameStack.settle (top :: below) = top :: below := settle_cons (by simp [hwait])
    cases left with
    | zero => rfl
    | succ left => simp only [commands, executed, hsettle, next?, hwait, if_false]; rfl
  | spent hwait => rfl
  | transfers hwait hnext hflow | fails hwait hnext hflow =>
    rw [commands_execute hwait hnext, hflow]
    simp [next?, hwait, hnext]

/-- The instructions that the loop executes up to the end of the tick are its commands. -/
theorem commands_eq_executed {m : Moment} {later : List Moment} {t : Tick}
    (h : (m :: later).IsChain (Turns limit))
    (hends : ((m :: later).getLast (List.cons_ne_nil _ _)).Ends limit t) :
    m.commands limit = ((m :: later).filterMap next?).map (·.command) := by
  induction later generalizing m with
  | nil =>
    have hlast : m.Ends limit t := hends
    rw [hlast.commands_eq]
    cases hnext : m.next? <;> simp [hnext]
  | cons m' later ih =>
    obtain ⟨hturn, hrest⟩ := List.isChain_cons_cons.mp h
    have hcommands := ih hrest hends
    rw [List.filterMap_cons]
    cases hturn with
    | @drop left top below w hwait hdone =>
      have hsame : commands limit ⟨left + 1, top :: below, w⟩ =
          commands limit ⟨left + 1, below, w⟩ := by
        simp only [commands, executed, settle_drop hwait hdone]
      simp only [hsame, next?, hwait, hdone, if_true]
      exact hcommands
    | execute hwait hnext hflow =>
      rw [commands_execute hwait hnext, if_pos hflow, hcommands]
      simp only [next?, hwait, hnext, if_true, List.map_cons]

end

end Moment

namespace Interpreter

/-- **A tick ends within its budget.** Whatever the stack holds, whatever calls what and however the
interpreter is set up: however far the loop of a tick has come, it has gone around at most twice for
every command of the budget, once for every frame of the stack and once more; it has executed at
most as many instructions as the budget allows; and each of them has left the frames below the
running one as they were and put at most one frame upon them besides the running one. So the loop
comes to a last turn, and the tick has executed the instructions up to that. Only an interpreter
that runs nothing does not begin the loop at all. -/
theorem tick_within_budget (baseDepth : UInt32) (config : InterpreterConfig) (frames : FrameStack)
    (w : World) :
    let i : Interpreter := { ofConfig baseDepth config with frames }
    let budget := max 1 config.commandsPerTick
    (∀ later, (i.opening w :: later).IsChain (Moment.Turns i.maxDepth) →
      (i.opening w :: later).length ≤ 2 * budget + frames.length + 1 ∧
      ((i.opening w :: later).filterMap Moment.next?).length ≤ budget ∧
      ∀ m ∈ i.opening w :: later, ∀ top below instruction, m.frames = top :: below →
        m.next? = some instruction →
          Frame.Leaves i.maxDepth m.world { top with cursor := top.cursor + 1 } below
            (Moment.effect i.maxDepth top below m.world instruction).frames) ∧
    (frames ≠ [] → ∃ later, (i.opening w :: later).IsChain (Moment.Turns i.maxDepth) ∧
      ((i.opening w :: later).getLast (List.cons_ne_nil _ _)).Ends i.maxDepth (i.tick w) ∧
      i.commands w = ((i.opening w :: later).filterMap Moment.next?).map (·.command)) ∧
    (frames = [] → i.tick w = ⟨.ok .idle, [], w⟩) := by
  intro i budget
  have hbudget : i.commandsPerTick = budget := Nat.max_comm _ _
  obtain ⟨kept, hkept, hrevalidate⟩ := frames.revalidate_suffix w.map
  have hheight : (i.opening w).frames.length ≤ frames.length := by
    change (frames.revalidate w.map).length ≤ frames.length
    rw [hrevalidate, List.length_map]
    exact hkept.length_le
  have hcredit : (i.opening w).credit ≤ 2 * budget + frames.length := by
    change 2 * i.commandsPerTick + (i.opening w).frames.length ≤ _
    omega
  refine ⟨fun later hchain => ⟨?_, ?_, ?_⟩, fun hrunning => ?_, fun hempty => tick_idle w hempty⟩
  · have hlength := Moment.length_le_credit hchain
    omega
  · exact (Moment.length_executed_le hchain).trans_eq hbudget
  · intro m _ top below instruction _ _
    exact Moment.effect_leaves top below m.world instruction
  · obtain ⟨m, hleads, hends⟩ := Moment.exists_ends i.maxDepth (i.opening w)
    obtain ⟨later, hchain, hlast⟩ := List.exists_isChain_cons_of_relationReflTransGen hleads
    rw [← tick_eq_run w hrunning, ← hlast] at hends
    exact ⟨later, hchain, hends, Moment.commands_eq_executed hchain hends⟩

/-- Two common events that call each other for ever take up a budget of three commands. The empty
list above them costs none. -/
example :
    let call (id : Int) : List Instruction := [{ code := 117, parameters := [.int id] }]
    let circle : List CommonEvent := [⟨1, "ping", call 2⟩, ⟨2, "pong", call 1⟩]
    let w : World := { map := {}, tables := { commonEvents := circle } }
    let i : Interpreter := { ofConfig 0 { commandsPerTick := 3 } with
      frames := [{ depth := 1, list := [] }, { depth := 0, list := call 1 }] }
    (i.commands w).length = 3 ∧ (i.tick w).frames.map (·.depth) = [3, 2, 1, 0] := by
  exact ⟨rfl, rfl⟩

end Interpreter

end Overworld
