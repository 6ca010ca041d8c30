import Mathlib.Logic.Relation
import Overworld.Interpreter.Tick
import Overworld.Proofs.Interpreter.Effects

/-!
# The turns of a tick

A tick is a loop. A turn of it drops a frame that has run off its list or executes one
command, and the tick ends where no such turn is possible. `Moment.run` is the tick from
a moment on; every turn keeps it, so a property of all turns is one of ticks.
-/

namespace Overworld

open Relation

/-- Where a tick is between two turns of its loop. -/
structure Moment where
  /-- How many commands the tick may still execute. -/
  left : Nat
  frames : FrameStack
  world : World

namespace Moment

/-- What a command leads to that the frame on top executes next. -/
def effect (limit : UInt32) (top : Frame) (below : FrameStack) (w : World) (i : Instruction) :
    Effect :=
  i.command.execute limit { top with cursor := top.cursor + 1 } below w

/-- One turn of the loop after which the tick goes on. -/
inductive Turns (limit : UInt32) : Moment → Moment → Prop
  | drop {left : Nat} {top : Frame} {below : FrameStack} {w : World}
      (hwait : top.wait = 0) (hdone : top.list[top.cursor]? = none) :
      Turns limit ⟨left + 1, top :: below, w⟩ ⟨left + 1, below, w⟩
  | execute {left : Nat} {top : Frame} {below : FrameStack} {w : World} {i : Instruction}
      (hwait : top.wait = 0) (hnext : top.list[top.cursor]? = some i)
      (hflow : (effect limit top below w i).flow = .go) :
      Turns limit ⟨left + 1, top :: below, w⟩
        ⟨left, (effect limit top below w i).frames, (effect limit top below w i).world⟩

/-- The last turn of the loop, and what the tick leads to. -/
inductive Ends (limit : UInt32) : Moment → Tick → Prop
  | finished {left : Nat} {w : World} : Ends limit ⟨left, [], w⟩ ⟨.ok .finished, [], w⟩
  | waiting {left : Nat} {top : Frame} {below : FrameStack} {w : World} (hwait : top.wait ≠ 0) :
      Ends limit ⟨left, top :: below, w⟩
        ⟨.ok .waiting, { top with wait := top.wait - 1 } :: below, w⟩
  | spent {top : Frame} {below : FrameStack} {w : World} (hwait : top.wait = 0) :
      Ends limit ⟨0, top :: below, w⟩ ⟨.ok .yielded, top :: below, w⟩
  | transfers {left : Nat} {top : Frame} {below : FrameStack} {w : World} {i : Instruction}
      (hwait : top.wait = 0) (hnext : top.list[top.cursor]? = some i)
      (hflow : (effect limit top below w i).flow = .yield) :
      Ends limit ⟨left + 1, top :: below, w⟩
        ⟨.ok .yielded, (effect limit top below w i).frames, (effect limit top below w i).world⟩
  | fails {left : Nat} {top : Frame} {below : FrameStack} {w : World} {i : Instruction}
      {fault : Fault} (hwait : top.wait = 0) (hnext : top.list[top.cursor]? = some i)
      (hflow : (effect limit top below w i).flow = .fail fault) :
      Ends limit ⟨left + 1, top :: below, w⟩
        ⟨.error fault, (effect limit top below w i).frames, (effect limit top below w i).world⟩

/-- Turns of the loop, one after the other. -/
abbrev Leads (limit : UInt32) : Moment → Moment → Prop := ReflTransGen (Turns limit)

/-- The tick from a moment on. -/
def run (limit : UInt32) (m : Moment) : Tick := FrameStack.advance limit m.left m.frames m.world

/-- The commands that a stack executes with a budget of commands. -/
def executed (limit : UInt32) : Nat → FrameStack → World → List Command
  | 0, _, _ => []
  | budget + 1, frames, w =>
    match frames.settle with
    | [] => []
    | top :: below =>
      if top.wait = 0 then
        match top.list[top.cursor]? with
        | none => []
        | some i =>
          let e := effect limit top below w i
          i.command :: if e.flow = .go then executed limit budget e.frames e.world else []
      else []

/-- The commands that the tick executes from a moment on. -/
def commands (limit : UInt32) (m : Moment) : List Command := executed limit m.left m.frames m.world

section

variable {limit : UInt32} {left : Nat} {top : Frame} {below : FrameStack} {w : World}

/-- A frame that is not to be dropped stays on top. -/
theorem settle_cons (h : ¬ (top.wait = 0 ∧ top.list[top.cursor]? = none)) :
    FrameStack.settle (top :: below) = top :: below := by
  have hstays : ¬ (top.wait = 0 ∧ top.isDone = true) := by
    simpa only [Frame.isDone, decide_eq_true_eq, List.getElem?_eq_none_iff] using h
  rw [FrameStack.settle, if_neg hstays]

/-- A frame that has run off its list is dropped. -/
theorem settle_drop (hwait : top.wait = 0) (hdone : top.list[top.cursor]? = none) :
    FrameStack.settle (top :: below) = below.settle := by
  have hdone : top.isDone = true := by
    simpa only [Frame.isDone, decide_eq_true_eq, List.getElem?_eq_none_iff] using hdone
  rw [FrameStack.settle, if_pos ⟨hwait, hdone⟩]

/-- A tick that executes a command goes on as the flow of the command says. -/
theorem run_execute {i : Instruction} (hwait : top.wait = 0)
    (hnext : top.list[top.cursor]? = some i) :
    run limit ⟨left + 1, top :: below, w⟩ =
      match (effect limit top below w i).flow with
      | .go => run limit
          ⟨left, (effect limit top below w i).frames, (effect limit top below w i).world⟩
      | .yield => ⟨.ok .yielded, (effect limit top below w i).frames,
          (effect limit top below w i).world⟩
      | .fail fault => ⟨.error fault, (effect limit top below w i).frames,
          (effect limit top below w i).world⟩ := by
  have hsettle : FrameStack.settle (top :: below) = top :: below :=
    settle_cons (by simp [hnext])
  have heffect : top.executeNext limit below w = effect limit top below w i := by
    simp only [Frame.executeNext, hnext, effect]
  cases hflow : (effect limit top below w i).flow <;>
    simp only [run, FrameStack.advance, hsettle, hwait, if_true, heffect, hflow]

/-- A turn of the loop does not change what the tick leads to. -/
theorem Turns.run_eq {m m' : Moment} (h : m.Turns limit m') : m.run limit = m'.run limit := by
  cases h with
  | @drop left top below w hwait hdone =>
    simp only [run, FrameStack.advance, settle_drop hwait hdone]
    cases below with
    | nil => rfl
    | cons next below => simp only [FrameStack.advance]
  | execute hwait hnext hflow => rw [run_execute hwait hnext, hflow]

/-- The last turn of the loop says what the tick leads to. -/
theorem Ends.run_eq {m : Moment} {t : Tick} (h : m.Ends limit t) : m.run limit = t := by
  cases h with
  | @finished left w => cases left <;> rfl
  | @waiting left top below w hwait =>
    cases left with
    | zero => simp only [run, FrameStack.advance, hwait, if_false]
    | succ left =>
      have hsettle : FrameStack.settle (top :: below) = top :: below := settle_cons (by simp [hwait])
      simp only [run, FrameStack.advance, hsettle, hwait, if_false]
  | spent hwait => simp only [run, FrameStack.advance, hwait, if_true]
  | transfers hwait hnext hflow | fails hwait hnext hflow => rw [run_execute hwait hnext, hflow]

/-- The turns of a tick do not change what it leads to. -/
theorem Leads.run_eq {m m' : Moment} (h : m.Leads limit m') : m.run limit = m'.run limit := by
  induction h with
  | refl => rfl
  | tail _ hturn ih => rw [ih, hturn.run_eq]

/-- A turn of the loop that executes a command after which the tick goes on. -/
theorem turns_of_effect {frames : FrameStack} {w' : World} {i : Instruction} (hwait : top.wait = 0)
    (hnext : top.list[top.cursor]? = some i)
    (heffect : effect limit top below w i = ⟨frames, w', .go⟩) :
    Turns limit ⟨left + 1, top :: below, w⟩ ⟨left, frames, w'⟩ := by
  have hflow : (effect limit top below w i).flow = .go := by rw [heffect]
  have hturn : Turns limit ⟨left + 1, top :: below, w⟩ _ := .execute hwait hnext hflow
  rwa [heffect] at hturn

/-- What the next command leads to is reached by steps of the world. -/
theorem effect_steps (i : Instruction) : World.Steps w (effect limit top below w i).world :=
  Command.execute_steps ..

/-- At every moment the loop takes a turn or ends. -/
theorem turns_or_ends (limit : UInt32) (m : Moment) :
    (∃ m', m.Turns limit m') ∨ ∃ t, m.Ends limit t := by
  obtain ⟨left, _ | ⟨top, below⟩, w⟩ := m
  · exact .inr ⟨_, .finished⟩
  · by_cases hwait : top.wait = 0
    · cases left with
      | zero => exact .inr ⟨_, .spent hwait⟩
      | succ left =>
        cases hnext : top.list[top.cursor]? with
        | none => exact .inl ⟨_, .drop hwait hnext⟩
        | some i =>
          cases hflow : (effect limit top below w i).flow with
          | go => exact .inl ⟨_, .execute hwait hnext hflow⟩
          | yield => exact .inr ⟨_, .transfers hwait hnext hflow⟩
          | fail fault => exact .inr ⟨_, .fails hwait hnext hflow⟩
    · exact .inr ⟨_, .waiting hwait⟩

/-- A turn uses up a command, or else a frame. -/
theorem Turns.decreases {m m' : Moment} (h : m.Turns limit m') :
    Prod.Lex (· < ·) (· < ·) (m'.left, m'.frames.length) (m.left, m.frames.length) := by
  cases h with
  | drop hwait hdone => exact .right _ (Nat.lt_succ_self _)
  | execute hwait hnext hflow => exact .left _ _ (Nat.lt_succ_self _)

/-- Every tick comes to a last turn. -/
theorem exists_ends (limit : UInt32) (m : Moment) :
    ∃ m', m.Leads limit m' ∧ m'.Ends limit (m.run limit) := by
  rcases turns_or_ends limit m with ⟨m', hturn⟩ | ⟨t, hends⟩
  · obtain ⟨m'', hleads, hends⟩ := exists_ends limit m'
    exact ⟨m'', .head hturn hleads, hturn.run_eq ▸ hends⟩
  · exact ⟨m, .refl, hends.run_eq.symm ▸ hends⟩
termination_by (m.left, m.frames.length)
decreasing_by exact hturn.decreases

/-- Only a transfer that can be carried out ends the tick without a fault. -/
theorem effect_flow {i : Instruction} :
    (effect limit top below w i).flow = .yield ↔ ∃ request, i.command = .transfer (some request) :=
  Command.execute_flow ..

/-- A tick that executes a command executes others only if the flow of the command says so. -/
theorem commands_execute {i : Instruction} (hwait : top.wait = 0)
    (hnext : top.list[top.cursor]? = some i) :
    commands limit ⟨left + 1, top :: below, w⟩ =
      i.command :: if (effect limit top below w i).flow = .go then commands limit
        ⟨left, (effect limit top below w i).frames, (effect limit top below w i).world⟩ else [] := by
  have hsettle : FrameStack.settle (top :: below) = top :: below :=
    settle_cons (by simp [hnext])
  simp only [commands, executed, hsettle, hnext, hwait, if_true]

/-- The commands before a moment of a tick are those of its turns; none of them is a transfer that
can be carried out. -/
theorem Leads.commands_eq {m m' : Moment} (h : m.Leads limit m') :
    ∃ before : List Command, m.commands limit = before ++ m'.commands limit ∧
      m.left = before.length + m'.left ∧
      ∀ request, .transfer (some request) ∉ before := by
  induction h using ReflTransGen.head_induction_on with
  | refl => exact ⟨[], rfl, (Nat.zero_add _).symm, fun _ => List.not_mem_nil⟩
  | head hturn _ ih =>
    obtain ⟨before, hcommands, hleft, hno⟩ := ih
    cases hturn with
    | @drop left top below w hwait hdone =>
      refine ⟨before, hcommands ▸ ?_, hleft, hno⟩
      simp only [commands, executed, settle_drop hwait hdone]
    | @execute left top below w i hwait hnext hflow =>
      refine ⟨i.command :: before, ?_, ?_, fun request hmem => ?_⟩
      · rw [commands_execute hwait hnext, if_pos hflow, hcommands, List.cons_append]
      · have hleft : left = before.length + m'.left := hleft
        rw [List.length_cons, hleft, Nat.add_right_comm]
      · rcases List.mem_cons.mp hmem with htransfer | hmem
        · rw [effect_flow.mpr ⟨request, htransfer.symm⟩] at hflow
          cases hflow
        · exact hno request hmem

end

end Moment

namespace Interpreter

/-- The interpreter with a budget of commands for every tick. -/
def withBudget (i : Interpreter) (budget : Nat) : Interpreter := { i with commandsPerTick := budget }

/-- What one tick of the interpreter leads to. -/
def tick (i : Interpreter) (w : World) : Tick :=
  let (result, i', w') := i.update w
  { result, frames := i'.frames, world := w' }

/-- The first moment of a tick. -/
def opening (i : Interpreter) (w : World) : Moment :=
  { left := i.commandsPerTick, frames := i.frames.revalidate w.map, world := w }

/-- The commands that one tick of the interpreter executes. -/
def commands (i : Interpreter) (w : World) : List Command := (i.opening w).commands i.maxDepth

/-- The interpreter and its world after a number of ticks. -/
def after (i : Interpreter) (w : World) : Nat → Interpreter × World
  | 0 => (i, w)
  | n + 1 => ((i.after w n).1.update (i.after w n).2).2

variable {i : Interpreter} (w : World)

/-- A tick changes nothing of the interpreter but its stack. -/
theorem update_eq :
    i.update w = ((i.tick w).result, { i with frames := (i.tick w).frames }, (i.tick w).world) := by
  unfold tick update
  split <;> rfl

/-- A tick of an interpreter that is running is the tick from its first moment on. -/
theorem tick_eq_run (h : i.frames ≠ []) : i.tick w = (i.opening w).run i.maxDepth := by
  have hrunning : i.isRunning = true := by simpa [isRunning] using h
  simp only [tick, update, hrunning, if_true]
  rfl

/-- An interpreter that runs nothing has nothing to do. -/
theorem tick_idle (h : i.frames = []) : i.tick w = ⟨.ok .idle, [], w⟩ := by
  have hidle : i.isRunning = false := by simp [isRunning, h]
  simp only [tick, update, hidle, h, Bool.false_eq_true, if_false]

/-- A number of ticks and one before them. -/
theorem after_succ (i : Interpreter) (n : Nat) :
    i.after w (n + 1) = (i.update w).2.1.after (i.update w).2.2 n := by
  induction n with
  | zero => rfl
  | succ n ih => rw [after, ih, after]

/-- What holds at the first moment of a tick and is kept by every turn of the loop, the last one
included, holds where the tick ends. -/
theorem tick_induction {P : FrameStack → World → Prop} {w : World}
    (hopening : P (i.frames.revalidate w.map) w)
    (hdrop : ∀ {top : Frame} {below : FrameStack} {w : World}, P (top :: below) w → P below w)
    (hexecute : ∀ {top : Frame} {below : FrameStack} {w : World} {instruction : Instruction},
      top.list[top.cursor]? = some instruction → P (top :: below) w →
      P (Moment.effect i.maxDepth top below w instruction).frames
        (Moment.effect i.maxDepth top below w instruction).world)
    (hcount : ∀ {top : Frame} {below : FrameStack} {w : World}, P (top :: below) w →
      P ({ top with wait := top.wait - 1 } :: below) w) :
    P (i.tick w).frames (i.tick w).world := by
  by_cases hempty : i.frames = []
  · rw [hempty] at hopening
    rw [tick_idle w hempty]
    exact hopening
  · obtain ⟨m, hleads, hends⟩ := Moment.exists_ends i.maxDepth (i.opening w)
    have hm : P m.frames m.world := by
      clear hends
      induction hleads with
      | refl => exact hopening
      | tail _ hturn ih =>
        cases hturn with
        | drop => exact hdrop ih
        | execute _ hnext => exact hexecute hnext ih
    rw [tick_eq_run w hempty]
    generalize (i.opening w).run i.maxDepth = t at hends ⊢
    cases hends with
    | finished | spent => exact hm
    | waiting => exact hcount hm
    | transfers _ hnext | fails _ hnext => exact hexecute hnext hm

/-- A tick changes the world by steps. -/
theorem tick_steps (i : Interpreter) : World.Steps w (i.tick w).world := by
  refine tick_induction (P := fun _ w' => World.Steps w w') .refl id ?_ id
  intro top below w₁ instruction _ hsteps
  exact hsteps.trans (Moment.effect_steps instruction)

end Interpreter

end Overworld
