import Overworld.Proofs.Interpreter.Calls
import Overworld.Proofs.Interpreter.Cancellation
import Overworld.Proofs.Interpreter.Pacing

/-!
# Lists that are only form

An event whose page holds nothing but comments and ends is not called at all. If its list were
run, it would go through its instructions, one command after the other, over as many ticks as that
takes, and then be gone: nothing of the world changes, nothing is called, and the frames below wait
and are checked as in every tick. So only commands are saved by not calling it.
-/

namespace Overworld

open Relation

/-- The stack after the checks at the beginning of a number of ticks that find these worlds. -/
def FrameStack.checked (frames : FrameStack) (worlds : Nat → World) : Nat → FrameStack
  | 0 => frames
  | n + 1 => (frames.checked worlds n).revalidate (worlds n).map

/-- The interpreter after a number of ticks that find these worlds, whatever the host makes of the
world in between. -/
def Interpreter.during (i : Interpreter) (worlds : Nat → World) : Nat → Interpreter
  | 0 => i
  | n + 1 => ((i.during worlds n).update (worlds n)).2.1

/-- A frame of the same list some commands further on. It may have been bound to nothing on the
way. -/
structure Frame.Further (top f : Frame) (commands : Nat) : Prop where
  depth_eq : f.depth = top.depth
  list_eq : f.list = top.list
  cursor_eq : f.cursor = top.cursor + commands
  wait_eq : f.wait = top.wait

/-- A frame that comes further from where it was already further on. -/
theorem Frame.Further.trans {top f g : Frame} {m n : Nat} (h : top.Further f m)
    (h' : f.Further g n) : top.Further g (m + n) where
  depth_eq := h'.depth_eq.trans h.depth_eq
  list_eq := h'.list_eq.trans h.list_eq
  cursor_eq := by rw [h'.cursor_eq, h.cursor_eq, Nat.add_assoc]
  wait_eq := h'.wait_eq.trans h.wait_eq

/-- The codes of ends, of comments and of their further lines are those of form. -/
theorem Instruction.isStructural_iff {i : Instruction} :
    i.isStructural = true ↔ i.code.toInt = 0 ∨ i.code.toInt = 108 ∨ i.code.toInt = 408 := by
  unfold isStructural
  fun_cases command i with
  | case11 => simp_all
  | _ => simp [*]

/-- An instruction that is only form ends the list or does nothing. -/
theorem Instruction.command_of_isStructural {i : Instruction} (h : i.isStructural = true) :
    i.command = .comment ∨ ∃ outermost, i.command = .finish outermost := by
  rcases isStructural_iff.mp h with hcode | hcode | hcode
  · exact .inr ⟨decide (i.indent = 0), by rw [command, hcode]; rfl⟩
  · exact .inl (by rw [command, hcode]; rfl)
  · exact .inl (by rw [command, hcode]; rfl)

/-- An event with a list that is only form is not called. -/
theorem MapEvent.isExecutable_of_form {e : MapEvent} {list : List Instruction}
    (hlist : e.list? = some list) (hform : ∀ i ∈ list, i.isStructural = true) :
    e.isExecutable = false := by
  rw [← Bool.not_eq_true, MapEvent.isExecutable_iff]
  rintro ⟨-, list', hlist', i, hi, hmore⟩
  obtain rfl : list = list' := Option.some.inj (hlist.symm.trans hlist')
  rw [hform i hi] at hmore
  cases hmore

section

variable (map : FieldMap) (top : Frame) (below : FrameStack)

/-- The check at the beginning of a tick keeps the frame on top, or takes it down with or without
others; the frames below are checked as if it were not there. -/
theorem FrameStack.revalidate_cons :
    FrameStack.revalidate (top :: below) map = below.revalidate map ∨
      FrameStack.revalidate (top :: below) map = top.rebound map :: below.revalidate map := by
  simp only [FrameStack.revalidate, List.reverse_cons, List.takeWhile_append]
  split
  case isTrue hlength =>
    have hall := (List.takeWhile_prefix (Frame.ownerPresent map)).eq_of_length hlength
    cases htop : top.ownerPresent map with
    | true => exact .inr (by simp [List.takeWhile, htop, hall])
    | false => exact .inl (by simp [List.takeWhile, htop, hall])
  case isFalse => exact .inl rfl

end

namespace Moment

/-- Turns of the loop, one after the other, in which only a frame with this list goes on, on top of
some others and in a world that stays the same. -/
abbrev LeadsAlone (limit : UInt32) (list : List Instruction) (below : FrameStack) (w : World) :
    Moment → Moment → Prop :=
  ReflTransGen fun m m' =>
    (∃ f : Frame, f.list = list ∧ m.frames = f :: below ∧ m.world = w) ∧ m.Turns limit m'

section

/-- Turns of a frame that goes on alone are turns of the loop. -/
theorem LeadsAlone.leads {limit : UInt32} {list : List Instruction} {below : FrameStack} {w : World}
    {m m' : Moment} (h : LeadsAlone limit list below w m m') : m.Leads limit m' :=
  ReflTransGen.mono (fun _ _ hturn => hturn.2) _ _ h

variable (limit : UInt32) (left : Nat) (top : Frame) (below : FrameStack) (w : World)

/-- An instruction that is only form ends the frame on top or moves it on, and does nothing
else. -/
theorem turns_of_isStructural {i : Instruction} (hwait : top.wait = 0)
    (hnext : top.list[top.cursor]? = some i) (hform : i.isStructural = true) :
    Turns limit ⟨left + 1, top :: below, w⟩ ⟨left, below, w⟩ ∨
      Turns limit ⟨left + 1, top :: below, w⟩
        ⟨left, { top with cursor := top.cursor + 1 } :: below, w⟩ := by
  rcases Instruction.command_of_isStructural hform with hcommand | ⟨_ | _, hcommand⟩
  · exact .inr (turns_of_effect hwait hnext (by rw [effect, hcommand]; rfl))
  · exact .inr (turns_of_effect hwait hnext (by rw [effect, hcommand]; rfl))
  · exact .inl (turns_of_effect hwait hnext (by rw [effect, hcommand]; rfl))

/-- A list that is only form uses up what is left of a tick, or it comes to its end in this tick
after some commands. -/
theorem leadsAlone_of_form (hform : ∀ i ∈ top.list, i.isStructural = true)
    (hready : top.wait = 0) :
    (left ≤ top.list.length - top.cursor ∧ ∃ f, top.Further f left ∧
      LeadsAlone limit top.list below w ⟨left, top :: below, w⟩ ⟨0, f :: below, w⟩) ∨
    ∃ spent ≤ left, spent ≤ top.list.length - top.cursor ∧
      LeadsAlone limit top.list below w ⟨left, top :: below, w⟩ ⟨left - spent, below, w⟩ := by
  -- Every instruction takes one of the commands that are left, also when the list goes on.
  induction left generalizing top with
  | zero => exact .inl ⟨Nat.zero_le _, top, ⟨rfl, rfl, rfl, rfl⟩, .refl⟩
  | succ left ih =>
    cases hnext : top.list[top.cursor]? with
    | none =>
      refine .inr ⟨0, Nat.zero_le _, Nat.zero_le _, .single ⟨⟨top, rfl, rfl, rfl⟩, ?_⟩⟩
      exact .drop hready hnext
    | some i =>
      obtain ⟨hwithin, -⟩ := List.getElem?_eq_some_iff.mp hnext
      have hturn := turns_of_isStructural limit left top below w hready hnext
        (hform i (List.mem_of_getElem? hnext))
      rcases hturn with hends | hon
      · exact .inr ⟨1, by omega, by omega, .single ⟨⟨top, rfl, rfl, rfl⟩, hends⟩⟩
      · have hstep : top.Further { top with cursor := top.cursor + 1 } 1 := ⟨rfl, rfl, rfl, rfl⟩
        rcases ih { top with cursor := top.cursor + 1 } hform hready with
          ⟨hlength, f, hfurther, hleads⟩ | ⟨spent, hspent, hlength, hleads⟩
        · have hlength : left ≤ top.list.length - (top.cursor + 1) := hlength
          refine .inl ⟨by omega, f, ?_, .head ⟨⟨top, rfl, rfl, rfl⟩, hon⟩ hleads⟩
          exact Nat.add_comm 1 left ▸ hstep.trans hfurther
        · have hlength : spent ≤ top.list.length - (top.cursor + 1) := hlength
          rw [← Nat.add_sub_add_right left 1 spent] at hleads
          exact .inr ⟨spent + 1, by omega, by omega, .head ⟨⟨top, rfl, rfl, rfl⟩, hon⟩ hleads⟩

end

end Moment

namespace Interpreter

open Moment

/-- The interpreter with its stack as checked at the beginning of a number of ticks. -/
def checked (i : Interpreter) (worlds : Nat → World) (n : Nat) : Interpreter :=
  { i with frames := i.frames.checked worlds n }

/-- The interpreter with a frame on top of its stack. -/
def withTop (i : Interpreter) (top : Frame) : Interpreter := { i with frames := top :: i.frames }

/-- A tick finds some world and is spent on a frame on top alone: as many commands of its list are
executed as a tick may execute, in a world that stays as it is and above frames that have only been
checked. -/
structure SpentOn (i : Interpreter) (top : Frame) (w : World) (f : Frame) : Prop where
  further : top.Further f i.commandsPerTick
  within : i.commandsPerTick ≤ top.list.length - top.cursor
  alone : LeadsAlone i.maxDepth top.list (i.frames.revalidate w.map) w ((i.withTop top).opening w)
    ⟨0, f :: i.frames.revalidate w.map, w⟩

/-- A tick finds some world and executes some commands of the list of a frame on top, which is gone
then. Up to there the world stays as it is, and the frames below have only been checked. -/
structure EndsAfter (i : Interpreter) (top : Frame) (w : World) (spent : Nat) : Prop where
  spent_le : spent ≤ i.commandsPerTick
  within : spent ≤ top.list.length - top.cursor
  alone : LeadsAlone i.maxDepth top.list (i.frames.revalidate w.map) w ((i.withTop top).opening w)
    ⟨i.commandsPerTick - spent, i.frames.revalidate w.map, w⟩

section

variable {i : Interpreter} {top f : Frame} {w : World} {spent : Nat}

/-- A tick that is spent on a frame yields. -/
theorem SpentOn.tick_eq (h : i.SpentOn top w f) (hready : top.wait = 0) :
    (i.withTop top).tick w = ⟨.ok .yielded, f :: i.frames.revalidate w.map, w⟩ := by
  rw [tick_eq_run w (List.cons_ne_nil _ _)]
  exact h.alone.leads.run_eq.trans (Ends.spent (h.further.wait_eq.trans hready)).run_eq

/-- A tick in which a frame ends does with what is left of its budget what a tick of the frames
below does. -/
theorem EndsAfter.tick_eq (h : i.EndsAfter top w spent) (hbelow : i.frames ≠ []) :
    (i.withTop top).tick w = (i.withBudget (i.commandsPerTick - spent)).tick w := by
  have hcalled : (i.withTop top).tick w = ((i.withTop top).opening w).run i.maxDepth :=
    tick_eq_run w (List.cons_ne_nil _ _)
  have hskipped := (i.withBudget (i.commandsPerTick - spent)).tick_eq_run w hbelow
  exact hcalled.trans (h.alone.leads.run_eq.trans hskipped.symm)

/-- A tick in which the last frame ends finishes. -/
theorem EndsAfter.tick_of_nil (h : i.EndsAfter top w spent) (hbelow : i.frames = []) :
    (i.withTop top).tick w = ⟨.ok .finished, [], w⟩ := by
  have hnone : i.frames.revalidate w.map = [] := by rw [hbelow]; rfl
  have hleads := h.alone.leads.run_eq
  rw [hnone] at hleads
  rw [tick_eq_run w (List.cons_ne_nil _ _)]
  exact hleads.trans Ends.finished.run_eq

/-- One tick of a list that is only form. -/
theorem spentOn_or_endsAfter (hform : ∀ instruction ∈ top.list, instruction.isStructural = true)
    (hready : top.wait = 0) (w : World) :
    (∃ f, i.SpentOn top w f) ∨ ∃ spent, i.EndsAfter top w spent := by
  rcases FrameStack.revalidate_cons w.map top i.frames with hgone | hkept
  · have hopening : (i.withTop top).opening w =
        ⟨i.commandsPerTick - 0, i.frames.revalidate w.map, w⟩ :=
      congrArg (Moment.mk _ · w) hgone
    exact .inr ⟨0, Nat.zero_le _, Nat.zero_le _, hopening ▸ .refl⟩
  · have hopening : (i.withTop top).opening w =
        ⟨i.commandsPerTick, top.rebound w.map :: i.frames.revalidate w.map, w⟩ :=
      congrArg (Moment.mk _ · w) hkept
    have hrebound : top.KeptAs w.map (top.rebound w.map) := top.keptAs_rebound
    have hkeeps : top.Further (top.rebound w.map) 0 :=
      ⟨hrebound.depth_eq, hrebound.list_eq, hrebound.cursor_eq, hrebound.wait_eq⟩
    have hleads := leadsAlone_of_form i.maxDepth i.commandsPerTick (top.rebound w.map)
      (i.frames.revalidate w.map) w (hkeeps.list_eq ▸ hform) (hkeeps.wait_eq.trans hready)
    rw [← hopening, hkeeps.list_eq, hkeeps.cursor_eq, Nat.add_zero] at hleads
    rcases hleads with ⟨hwithin, f, hfurther, halone⟩ | ⟨spent, hspent, hwithin, halone⟩
    · exact .inl ⟨f, Nat.zero_add i.commandsPerTick ▸ hkeeps.trans hfurther, hwithin, halone⟩
    · exact .inr ⟨spent, hspent, hwithin, halone⟩

end

/-- After a number of ticks a frame that was put on top has gone on by the commands that they may
execute, and to the stack below nothing has happened but the checks. -/
structure GoneOn (i : Interpreter) (top : Frame) (worlds : Nat → World) (n : Nat) (f : Frame) :
    Prop where
  further : top.Further f (n * i.commandsPerTick)
  within : n * i.commandsPerTick ≤ top.list.length - top.cursor
  during_eq : (i.withTop top).during worlds n = (i.checked worlds n).withTop f

section

variable {i : Interpreter} {top f f' : Frame} {worlds : Nat → World} {n : Nat}

/-- One tick more that is spent on the frame. -/
theorem GoneOn.succ (h : i.GoneOn top worlds n f) (hready : top.wait = 0)
    (hspent : (i.checked worlds n).SpentOn f (worlds n) f') : i.GoneOn top worlds (n + 1) f' where
  further := by
    rw [Nat.succ_mul]
    exact h.further.trans hspent.further
  within := by
    have hwithin : i.commandsPerTick ≤ f.list.length - f.cursor := hspent.within
    have hbefore := h.within
    rw [h.further.list_eq, h.further.cursor_eq] at hwithin
    rw [Nat.succ_mul]
    omega
  during_eq := by
    rw [during, h.during_eq, update_eq, hspent.tick_eq (h.further.wait_eq.trans hready)]
    rfl

/-- A list that is only form comes to its end in some tick, or each of a number of ticks is spent
on it. -/
theorem exists_end_or_goneOn (hform : ∀ instruction ∈ top.list, instruction.isStructural = true)
    (hready : top.wait = 0) (worlds : Nat → World) (m : Nat) :
    (∃ n f spent, i.GoneOn top worlds n f ∧ (i.checked worlds n).EndsAfter f (worlds n) spent ∧
      ∀ k < n, ∃ g g', i.GoneOn top worlds k g ∧ (i.checked worlds k).SpentOn g (worlds k) g') ∨
    (∃ f, i.GoneOn top worlds m f) ∧
      ∀ k < m, ∃ g g', i.GoneOn top worlds k g ∧ (i.checked worlds k).SpentOn g (worlds k) g' := by
  induction m with
  | zero =>
    right
    refine ⟨⟨top, ⟨rfl, rfl, ?_, rfl⟩, ?_, rfl⟩, fun k hk => absurd hk (Nat.not_lt_zero k)⟩
    · rw [Nat.zero_mul, Nat.add_zero]
    · rw [Nat.zero_mul]
      exact Nat.zero_le _
  | succ m ih =>
    rcases ih with hend | ⟨⟨f, hf⟩, hbefore⟩
    · exact .inl hend
    · have hform : ∀ instruction ∈ f.list, instruction.isStructural = true :=
        hf.further.list_eq ▸ hform
      rcases spentOn_or_endsAfter (i := i.checked worlds m) hform
        (hf.further.wait_eq.trans hready) (worlds m) with ⟨f', hspent⟩ | ⟨spent, hends⟩
      · refine .inr ⟨⟨f', hf.succ hready hspent⟩, fun k hk => ?_⟩
        rcases Nat.lt_succ_iff_lt_or_eq.mp hk with hk | rfl
        · exact hbefore k hk
        · exact ⟨f, f', hf, hspent⟩
      · exact .inl ⟨m, f, spent, hf, hends, hbefore⟩

end

/-- **Not calling an event whose list is only form loses nothing.** An event with such a list is
not called. If a frame with it were on top of some stack all the same, and whatever worlds the next
ticks found: finitely many ticks would be spent on it, and in one tick after them it would be gone.
Up to that moment none but this frame goes on, all commands are of its list, nothing is put on the
stack, the world is at every moment the one that the tick has found, and the frames below are those
of a stack without the frame that is checked at the beginning of the same ticks and does nothing
else. What is left of the last tick is a tick of that stack with as many commands as are left, or
nothing if that stack is empty. -/
theorem form_loses_nothing (i : Interpreter) (hbudget : 0 < i.commandsPerTick) {top : Frame}
    (hform : ∀ instruction ∈ top.list, instruction.isStructural = true)
    (hready : top.wait = 0) :
    (∀ (map : FieldMap) (e : MapEvent), e.list? = some top.list →
      (∀ target : CallTarget, target.resolve? map = some e →
        i.call map target = (.ok false, i)) ∧
      (∀ event, map.events.get? event = some e → i.setupEvent map event = (false, i))) ∧
    ∀ worlds : Nat → World, ∃ n spent,
      n * i.commandsPerTick + spent ≤ top.list.length - top.cursor ∧
      (∀ k < n, ∃ f f', i.GoneOn top worlds k f ∧ (i.checked worlds k).SpentOn f (worlds k) f' ∧
        ((i.withTop top).during worlds k).tick (worlds k) =
          ⟨.ok .yielded, f' :: (i.checked worlds (k + 1)).frames, worlds k⟩) ∧
      (∃ f, i.GoneOn top worlds n f ∧ (i.checked worlds n).EndsAfter f (worlds n) spent) ∧
      ((i.checked worlds n).frames ≠ [] →
        ((i.withTop top).during worlds n).tick (worlds n) =
          ((i.checked worlds n).withBudget (i.commandsPerTick - spent)).tick (worlds n)) ∧
      ((i.checked worlds n).frames = [] →
        ((i.withTop top).during worlds n).tick (worlds n) = ⟨.ok .finished, [], worlds n⟩) := by
  refine ⟨fun map e hlist => ?_, fun worlds => ?_⟩
  · have hnothing : e.isExecutable = false := MapEvent.isExecutable_of_form hlist hform
    refine ⟨fun target htarget => ?_, fun event hevent => ?_⟩
    · exact i.call_of_not_canCall map target
        (CallTarget.canCall_eq_false_iff.mpr (.inr ⟨e, htarget, hnothing⟩))
    · simp [setupEvent, hevent, Option.filter, hnothing]
  · obtain ⟨n, f, spent, hf, hends, hbefore⟩ | ⟨⟨f, hf⟩, -⟩ :=
      exists_end_or_goneOn (i := i) hform hready worlds (top.list.length + 1)
    · refine ⟨n, spent, ?_, fun k hk => ?_, ⟨f, hf, hends⟩, fun hbelow => ?_, fun hbelow => ?_⟩
      · have hwithin := hends.within
        have hbefore := hf.within
        rw [hf.further.list_eq, hf.further.cursor_eq] at hwithin
        omega
      · obtain ⟨g, g', hg, hspent⟩ := hbefore k hk
        refine ⟨g, g', hg, hspent, ?_⟩
        rw [hg.during_eq, hspent.tick_eq (hg.further.wait_eq.trans hready)]
        rfl
      · rw [hf.during_eq, hends.tick_eq hbelow]
        rfl
      · rw [hf.during_eq, hends.tick_of_nil hbelow]
    · -- There are fewer instructions than ticks, and each tick would have executed one.
      have hwithin := hf.within
      have hmany : top.list.length + 1 ≤ (top.list.length + 1) * i.commandsPerTick :=
        Nat.le_mul_of_pos_right _ hbudget
      omega

/-- Comments with an end of a branch and the end of the list among them. -/
private def remarks : List Instruction :=
  [{ code := 108 }, { code := 0, indent := 1 }, { code := 408 }, { code := 0 }, { code := 108 }]

/-- A host that goes to another map after every tick. There is a sign on each of them. -/
private def tour (n : Nat) : World :=
  { map := { id := UInt32.ofNat n, events := Roster.ofList [MapEvent.ofList 2 "sign" remarks] }
    tables := {} }

/-- A sign with nothing but remarks is not called. Above a list that is to wait, it would end in
the second tick, on another map than its own, and leave the list what a tick has left. -/
theorem form_loses_nothing_remarks :
    let i : Interpreter :=
      { maxDepth := 9, commandsPerTick := 2
        frames := [{ depth := 0, list := [{ code := 106, parameters := [.int 3] }] }] }
    let top : Frame := { depth := 1, source := .mapEvent 0 2, event := 2, list := remarks }
    0 < i.commandsPerTick ∧ (∀ instruction ∈ top.list, instruction.isStructural = true) ∧
      top.wait = 0 ∧ i.call (tour 0).map (.name "sign") = (.ok false, i) ∧
      ∃ n spent, n * 2 + spent ≤ 5 ∧ ((i.withTop top).during tour n).tick (tour n) =
        (i.withBudget (2 - spent)).tick (tour n) := by
  intro i top
  have hbudget : 0 < i.commandsPerTick := by decide
  have hform : ∀ instruction ∈ top.list, instruction.isStructural = true := by decide
  obtain ⟨hcall, hrun⟩ := form_loses_nothing i hbudget hform rfl
  obtain ⟨n, spent, hwithin, -, -, hrest, -⟩ := hrun tour
  have hchecked : i.checked tour n = i := by
    clear hwithin hrest
    induction n with
    | zero => rfl
    | succ n ih =>
      have hframes : i.frames.checked tour n = i.frames := congrArg Interpreter.frames ih
      rw [checked, FrameStack.checked, hframes]
      rfl
  rw [hchecked] at hrest
  exact ⟨hbudget, hform, rfl, (hcall _ _ rfl).1 _ rfl, n, spent, hwithin,
    hrest (List.cons_ne_nil _ _)⟩

end Interpreter

end Overworld
