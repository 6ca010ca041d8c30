import Mathlib.Algebra.GroupWithZero.Nat
import Overworld.Proofs.Surroundings
import Overworld.Script.Run

/-!
# Every script ends

Scripts may loop and call themselves for ever, but only a number of operations is allowed. The
machine takes some steps that are no operations: it puts frames on its stack and takes them off
again. The reserve of a machine counts what is left of the operations, a bounded number of steps for
each, and the frames on the stack. Every step uses some of it up, so the steps that a script may
take never run out before the operations do.
-/

namespace Overworld.Script

/-- How many steps a frame may still cost before an operation is counted. One that guards an attempt
makes room for those of its handler. -/
def Frame.weight : Frame → Nat
  | .guarded _ _ _ => 3
  | _ => 1

/-- How many steps the focus may still cost before an operation is counted. The failure that nothing
catches costs none. -/
def Focus.weight : Focus → Nat
  | .statement _ | .expression _ => 1
  | .value _ => 4
  | .signal (.failed f) => if f.cause.isLimit then 0 else 4
  | .signal _ => 4

/-- How many steps the operations that are left and the frames of a machine may still cost. -/
def Machine.reserve (m : Machine) : Nat :=
  9 * (operationLimit - m.operations) + (m.frames.map Frame.weight).sum

/-- How many steps a machine may still take. -/
def Machine.potential (m : Machine) : Nat := m.reserve + m.focus.weight

/-- A step after which fewer steps than `n` may follow, whatever a host answers. -/
def Step.Below (n : Nat) : Step → Prop
  | .next m => m.potential < n
  | .ask _ _ _ m => m.reserve + 4 < n
  | .ended _ => True

/-- Every frame still costs a step. -/
theorem Frame.weight_pos (f : Frame) : 0 < f.weight := by
  cases f <;> simp [Frame.weight]

theorem Focus.weight_le (f : Focus) : f.weight ≤ 4 := by
  unfold Focus.weight
  split
  · omega
  · omega
  · omega
  · split <;> omega
  · omega

namespace Machine

variable {m : Machine} {n : Nat}

/-- Nothing but the operations and the frames counts for the reserve. -/
theorem reserve_cons (frame : Frame) (frames : List Frame) (h : m.frames = frame :: frames) :
    m.reserve = { m with frames }.reserve + frame.weight := by
  simp only [reserve, h, List.map_cons, List.sum_cons]
  omega

theorem potential_le (m : Machine) : m.potential ≤ m.reserve + 4 :=
  Nat.add_le_add_left m.focus.weight_le _

/-- A signal costs no more than is set aside for the focus. -/
theorem below_raise (s : Signal) (h : m.reserve + 4 < n) : (m.raise s).potential < n :=
  Nat.lt_of_le_of_lt (potential_le _) h

theorem below_fail (cause : Cause) (place : Place) (h : m.reserve + 4 < n) :
    (m.fail cause place).potential < n :=
  below_raise _ h

theorem below_conclude (result : Except Cause Value) (place : Place) (h : m.reserve + 4 < n) :
    (m.conclude result place).potential < n := by
  cases result with
  | ok v => exact h
  | error cause => exact below_fail cause place h

/-- An operation pays for the steps up to the next one; if it is one too many, the script fails
for good. -/
theorem count_below {place : Place} {go : Machine → Step} (h : m.reserve < n)
    (hgo : ∀ m', m'.frames = m.frames → m'.reserve + 9 = m.reserve → (go m').Below n) :
    (m.count place go).Below n := by
  unfold count
  split
  · rename_i hleft
    refine hgo _ rfl ?_
    simp only [reserve]
    omega
  · exact h

theorem runAll_le (m : Machine) (stmts : List Stmt) :
    (m.runAll stmts).potential ≤ m.reserve + 4 := by
  unfold runAll
  split
  · exact Nat.le_refl _
  · simp only [potential, reserve, Focus.weight]
    omega
  · simp only [potential, reserve, Focus.weight, List.map_cons, List.sum_cons, Frame.weight]
    omega

theorem runScoped_le (m : Machine) (body : Block) :
    (m.runScoped body).potential ≤ m.reserve + 4 ∧
      (body.isEmpty = false → (m.runScoped body).potential ≤ m.reserve + 3) := by
  unfold runScoped Block.isEmpty
  split
  · rename_i hempty
    rw [hempty]
    exact ⟨Nat.le_refl _, fun hfalse => by cases hfalse⟩
  · rename_i stmts hsome
    unfold runAll
    split
    · exact absurd ‹_› hsome
    · simp only [potential, reserve, Focus.weight, List.map_cons, List.sum_cons, Frame.weight]
      omega
    · simp only [potential, reserve, Focus.weight, List.map_cons, List.sum_cons, Frame.weight]
      omega

theorem push_eq (m : Machine) (expr : Expr) (frame : Frame) :
    (m.push expr frame).potential = m.reserve + frame.weight + 1 := by
  simp only [push, potential, reserve, Focus.weight, List.map_cons, List.sum_cons]
  omega

/-- A call by name is paid for by its operation, unless there is nothing to run. -/
theorem invokeNamed_below (p : Program) (m : Machine) (name : String) (arguments : List Value)
    (place : Place) (h : m.reserve + 4 < n) : (m.invokeNamed p name arguments place).Below n := by
  unfold invokeNamed
  split
  · refine count_below (by omega) fun m' _ hpaid => ?_
    simp only [Step.Below]
    omega
  · split
    · exact h
    · refine count_below (by omega) fun m' _ hpaid => ?_
      split
      · exact below_fail _ _ (by omega)
      · refine Nat.lt_of_le_of_lt (runAll_le _ _) ?_
        simp only [reserve, List.map_cons, List.sum_cons, Frame.weight] at hpaid h ⊢
        omega

theorem invoke_below (p : Program) (m : Machine) (callee : Callee) (arguments : List Value)
    (place : Place) (h : m.reserve + 4 < n) : (m.invoke p callee arguments place).Below n := by
  unfold invoke
  split
  · split
    · exact below_conclude _ _ h
    · exact count_below (by omega) fun m' _ hpaid => below_conclude _ _ (by omega)
  · split
    · exact h
    · exact count_below (by omega) fun m' _ hpaid => below_conclude _ _ (by omega)
  · exact invokeNamed_below p m _ _ place h

theorem push_below (expr : Expr) (frame : Frame) (hframe : frame.weight = 1)
    (h : m.reserve + 4 < n) : (m.push expr frame).potential < n := by
  rw [push_eq, hframe]
  omega

theorem startCall_below (p : Program) (m : Machine) (callee : Callee) (arguments : List Expr)
    (place : Place) (h : m.reserve + 4 < n) : (m.startCall p callee arguments place).Below n := by
  unfold startCall
  split
  · exact invoke_below p m _ _ place h
  · exact push_below _ _ rfl h
  · exact push_below _ _ rfl h

/-- A block that is run above a frame that has just been put on the stack. -/
theorem runScoped_below {body : Block} {frame : Frame} {frames : List Frame}
    (hframes : m.frames = frame :: frames) (hframe : frame.weight = 1)
    (hbody : body.isEmpty = false) (h : { m with frames }.reserve + 4 < n) :
    (m.runScoped body).potential < n := by
  have hscoped := (m.runScoped_le body).2 hbody
  have hreserve := m.reserve_cons frame frames hframes
  omega

/-- The body of a loop is run above the frame of the loop. If there is nothing in it, the round is
counted all the same. -/
theorem body_below {body : Block} {frame : Frame} {frames : List Frame}
    (hframes : m.frames = frame :: frames) (hframe : frame.weight = 1)
    (h : { m with frames }.reserve + 4 < n) :
    Step.Below n (if body.isEmpty then m.count body.place fun m => .next (m.give .unit)
      else .next (m.runScoped body)) := by
  by_cases hbody : body.isEmpty = true
  · rw [if_pos hbody]
    have hreserve := m.reserve_cons frame frames hframes
    refine count_below (by omega) fun m' _ hpaid => ?_
    show m'.reserve + 4 < n
    omega
  · rw [if_neg hbody]
    exact runScoped_below hframes hframe (by simpa using hbody) h

/-- A round of a loop is paid for by its condition, by what its body runs, or as an operation. -/
theorem startRound_below (m : Machine) (condition : Option Expr) (body : Block)
    (h : m.reserve + 4 < n) : (m.startRound condition body).Below n := by
  unfold startRound
  split
  · exact push_below _ _ rfl h
  · split
    · refine count_below (by omega) fun m' _ hpaid => ?_
      simp only [Step.Below, potential, reserve, Focus.weight, List.map_cons, List.sum_cons,
        Frame.weight] at hpaid h ⊢
      omega
    · rename_i hbody
      exact runScoped_below rfl rfl (by simpa using hbody) h

theorem startEach_below (m : Machine) (name : String) (supply : Supply) (body : Block) (size : Nat)
    (h : m.reserve + 4 < n) : (m.startEach name supply body size).Below n := by
  unfold startEach
  split
  · exact h
  · exact body_below rfl rfl h

theorem assign_below (m : Machine) (op : Option BinaryOp) (name : String) (namePlace place : Place)
    (v : Value) (h : m.reserve + 4 < n) : (m.assign op name namePlace place v).Below n := by
  have hstored (m' : Machine) (new : Value) (hm' : m'.reserve + 4 < n) :
      Step.Below n (.next (m'.store name new)) := hm'
  unfold assign
  split
  · exact below_fail _ _ h
  · rename_i old _
    refine count_below (by omega) fun m' _ hpaid => ?_
    split
    · exact hstored m' v (by omega)
    · rename_i op
      split
      · rename_i result _
        cases result with
        | ok new => exact hstored m' new (by omega)
        | error cause => exact below_fail cause place (by omega)
      · refine count_below (by omega) fun m'' _ hpaid' => ?_
        cases op.called old v with
        | ok new => exact hstored m'' new (by omega)
        | error cause => exact below_fail cause place (by omega)

/-- An operation pays for all that evaluating an expression begins with. -/
theorem evaluate_below (p : Program) (m : Machine) (expr : Expr) (h : m.reserve + 8 < n) :
    (m.evaluate p expr).Below n := by
  have hreserve : m.reserve + 4 < n := by omega
  cases expr with
  | literal value place => exact hreserve
  | lookup name place =>
    simp only [evaluate]
    split
    · exact hreserve
    · exact below_fail _ _ hreserve
  | call callee arguments place => exact startCall_below p m callee arguments place hreserve
  | both left right place => exact push_below _ _ rfl hreserve
  | either left right place => exact push_below _ _ rfl hreserve
  | block body => exact Nat.lt_of_le_of_lt (m.runScoped_le body).1 hreserve

/-- An operation pays for all that executing a statement begins with. -/
theorem execute_below (p : Program) (m : Machine) (stmt : Stmt) (h : m.reserve + 8 < n) :
    (m.execute p stmt).Below n := by
  have hreserve : m.reserve + 4 < n := by omega
  cases stmt with
  | skip place => exact hreserve
  | evaluate expr =>
    simp only [execute, Step.Below, potential, reserve, Focus.weight] at h ⊢
    omega
  | call callee arguments place => exact startCall_below p m callee arguments place hreserve
  | block body => exact Nat.lt_of_le_of_lt (m.runScoped_le body).1 hreserve
  | bind name value place => exact push_below _ _ rfl hreserve
  | assign op name namePlace value place => exact push_below _ _ rfl hreserve
  | branch condition yes no place => exact push_below _ _ rfl hreserve
  | choose subject cases otherwise place => exact push_below _ _ rfl hreserve
  | repeatWhile condition body place => exact startRound_below m condition body hreserve
  | forEach name sequence body place => exact push_below _ _ rfl hreserve
  | leave value place =>
    cases value with
    | none => exact hreserve
    | some value => exact push_below _ _ rfl hreserve
  | nextRound place => exact hreserve
  | finish value place =>
    cases value with
    | none => exact hreserve
    | some value => exact push_below _ _ rfl hreserve
  | raise value place =>
    cases value with
    | none => exact below_fail _ _ hreserve
    | some value => exact push_below _ _ rfl hreserve
  | attempt body name handler place =>
    refine Nat.lt_of_le_of_lt (runScoped_le _ body).1 ?_
    simp only [reserve, List.map_cons, List.sum_cons, Frame.weight] at h ⊢
    omega

/-- A value pays for the frame that goes on with it. -/
theorem resume_below (p : Program) (m : Machine) (v : Value) (frame : Frame)
    (h : m.reserve + 4 < n) : (m.resume p v frame).Below n := by
  cases frame with
  | sequence rest => exact Nat.lt_of_le_of_lt (runAll_le m rest) h
  | scope size => exact h
  | arguments callee place done rest =>
    cases rest with
    | nil => exact invoke_below p m callee _ place h
    | cons next rest => exact push_below _ _ rfl h
  | otherArguments first callee place done rest =>
    cases rest with
    | nil => exact push_below _ _ rfl h
    | cons next rest => exact push_below _ _ rfl h
  | firstArgument callee place others => exact invoke_below p m callee _ place h
  | both leftPlace right =>
    simp only [resume]
    split
    · exact push_below _ _ rfl h
    · exact h
    · exact below_fail _ _ h
  | either leftPlace right =>
    simp only [resume]
    split
    · exact h
    · exact push_below _ _ rfl h
    · exact below_fail _ _ h
  | truth place =>
    simp only [resume]
    split
    · exact h
    · exact below_fail _ _ h
  | bind name => exact h
  | assign op name namePlace place => exact assign_below m op name namePlace place v h
  | branch conditionPlace yes no =>
    simp only [resume]
    split
    · exact Nat.lt_of_le_of_lt (m.runScoped_le _).1 h
    · exact below_fail _ _ h
  | choose cases otherwise =>
    simp only [resume]
    split
    · simp only [Step.Below, potential, reserve, Focus.weight] at h ⊢
      omega
    · exact h
  | test condition body =>
    simp only [resume]
    split
    · exact h
    · exact body_below rfl rfl h
    · exact below_fail _ _ h
  | round condition body => exact startRound_below m condition body h
  | elements start name body =>
    simp only [resume]
    split
    · exact startEach_below m name _ body _ h
    · exact below_fail _ _ h
  | each name supply body size => exact startEach_below m name supply body size h
  | leave => exact h
  | finish => exact h
  | raise place => exact below_fail _ _ h
  | guarded name handler size => exact h
  | handling caught => exact h
  | callee name place locals => exact h

/-- A failure is a limit inside a function of the script if it is one at the call. -/
theorem isLimit_around (name : String) (place : Place) (f : Failure) :
    (f.around name place).cause.isLimit = f.cause.isLimit := by
  unfold Failure.around
  by_cases hlimit : f.cause.isLimit = true
  · rw [if_pos hlimit]
  · rw [if_neg hlimit]
    simpa [Cause.isLimit] using hlimit

/-- A signal and the frame that it comes to pay for what follows. -/
theorem unwind_below (m : Machine) (s : Signal) (frame : Frame)
    (h : m.reserve + frame.weight + (Focus.signal s).weight ≤ n) : (m.unwind s frame).Below n := by
  have hpositive := frame.weight_pos
  -- A signal that goes on costs no more than before, and the frame is gone.
  have hpasses (m' : Machine) (s' : Signal) (hm' : m'.reserve = m.reserve)
      (hs' : (Focus.signal s').weight ≤ (Focus.signal s).weight) : (m'.raise s').potential < n := by
    show m'.reserve + (Focus.signal s').weight < n
    omega
  -- A signal that a frame takes has paid for what the frame does.
  have htaken (hs : (Focus.signal s).weight = 4) : m.reserve + 4 < n := by omega
  unfold unwind
  split
  · exact hpasses _ _ rfl (Nat.le_refl _)
  · exact htaken rfl
  · exact startRound_below m _ _ (htaken rfl)
  · exact htaken rfl
  · exact startEach_below m _ _ _ _ (htaken rfl)
  · exact hpasses _ _ rfl (Nat.le_refl _)
  · split
    · exact hpasses _ _ rfl (Nat.le_refl _)
    · rename_i f name handler size hcatches
      have hweight : (Focus.signal (.failed f)).weight = 4 := if_neg hcatches
      refine Nat.lt_of_le_of_lt (runScoped_le _ handler).1 ?_
      simp only [hweight, Frame.weight, reserve] at h
      cases name <;>
        · simp only [reserve, shrink, List.map_cons, List.sum_cons, Frame.weight]
          omega
  · exact hpasses _ _ rfl (Focus.weight_le _)
  · exact htaken rfl
  · rename_i f name place locals
    refine hpasses _ _ rfl (Nat.le_of_eq ?_)
    simp only [Focus.weight, isLimit_around]
  · exact hpasses _ _ rfl (Nat.le_refl _)

/-- Every step of the machine uses up some of what it may still take. -/
theorem step_below (p : Program) (m : Machine) : (m.step p).Below m.potential := by
  unfold step
  split
  · rename_i stmt hfocus
    have hpotential : m.potential = m.reserve + 1 := by rw [potential, hfocus]; rfl
    exact count_below (by omega) fun m' _ hpaid => execute_below p m' stmt (by omega)
  · rename_i expr hfocus
    have hpotential : m.potential = m.reserve + 1 := by rw [potential, hfocus]; rfl
    exact count_below (by omega) fun m' _ hpaid => evaluate_below p m' expr (by omega)
  · trivial
  · rename_i v frame frames hfocus hframes
    have hpotential : m.potential = m.reserve + 4 := by rw [potential, hfocus]; rfl
    have hreserve := m.reserve_cons frame frames hframes
    have hpositive := frame.weight_pos
    exact resume_below p _ v frame (by omega)
  · trivial
  · rename_i s frame frames hfocus hframes
    have hpotential : m.potential = m.reserve + (Focus.signal s).weight := by
      rw [potential, hfocus]
    have hreserve := m.reserve_cons frame frames hframes
    exact unwind_below _ s frame (by omega)

/-- The answer of a host costs no more than the machine has set aside for it. -/
theorem answered_below (m : Machine) (place : Place) (answer : Except Value Value)
    (h : m.reserve + 4 < n) : (m.answered place answer).potential < n := by
  cases answer with
  | ok v => exact h
  | error v => exact below_fail _ _ h

/-- The steps that a script may take are enough for every script. -/
theorem potential_load (p : Program) : (load p).potential < stepLimit := by
  refine Nat.lt_of_le_of_lt (runAll_le _ _) ?_
  decide

end Machine

end Overworld.Script
