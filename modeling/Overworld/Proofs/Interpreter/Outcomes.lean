import Overworld.Proofs.Interpreter.Budget
import Overworld.Proofs.Interpreter.Pacing

/-!
# What the outcome of a tick says

A host sees how a tick has ended and decides from that whether the player may move. The loop of a
tick has five ways out, and the outcome tells the truth about the stack in each of them: whether
anything was running, whether anything is left, and why the frame on top has stopped.
-/

namespace Overworld

/-- The frame on top of a stack has one tick less to wait, and nothing else is different. -/
def FrameStack.CountsDown (frames frames' : FrameStack) : Prop :=
  ∃ top below, frames = top :: below ∧ top.wait ≠ 0 ∧
    frames' = { top with wait := top.wait - 1 } :: below

section

variable {limit : UInt32} {top : Frame} {below : FrameStack} {w : World}

/-- A common event that is too deep to be called leaves the stack as it is. -/
theorem Frame.callCommon_stops {c : CommonEvent}
    (h : (top.callCommon limit below c w).flow ≠ .go) :
    (top.callCommon limit below c w).frames = top :: below := by
  unfold Frame.callCommon at h ⊢
  by_cases hdeep : limit < top.depth + 1
  · simp only [if_pos hdeep]
  · simp only [if_neg hdeep] at h
    exact absurd rfl h

/-- A script that fails leaves the stack as it is, with the running frame behind its lines. -/
theorem Frame.callScript_stops {line : String}
    (h : (top.callScript limit below line w).flow ≠ .go) :
    (top.callScript limit below line w).frames = top.pastScript :: below := by
  unfold Frame.callScript at h ⊢
  generalize runScript _ _ w = answer at h ⊢
  obtain ⟨result, w'⟩ := answer
  cases result with
  | error fault => rfl
  | ok child =>
    -- A script that has not failed never stops the tick, whether it has called anything or not.
    cases child <;> exact absurd rfl h

/-- A command after which the tick does not go on leaves the running frame on the stack, and lets it
wait no longer than before. -/
theorem Command.execute_stops {c : Command} (h : (c.execute limit top below w).flow ≠ .go) :
    ∃ top' : Frame, (c.execute limit top below w).frames = top' :: below ∧
      top'.wait = top.wait := by
  cases c with
  | finish | comment | wait | exit | setSelfSwitch | scriptLine | unsupported => exact absurd rfl h
  | callCommon id =>
    simp only [Command.execute] at h ⊢
    split at h
    · exact absurd rfl h
    · exact ⟨top, Frame.callCommon_stops h, rfl⟩
  | transfer request =>
    cases request with
    | none => exact absurd rfl h
    | some request => exact ⟨top, rfl, rfl⟩
  | script line => exact ⟨top.pastScript, Frame.callScript_stops h, rfl⟩

end

namespace Moment

variable {limit : UInt32} {m m' : Moment} {t : Tick}

/-- A command after which the tick does not go on leaves a frame on top that does not wait. -/
theorem effect_stops {top : Frame} {below : FrameStack} {w : World} {i : Instruction}
    (hwait : top.wait = 0) (h : (effect limit top below w i).flow ≠ .go) :
    ∃ top' : Frame, (effect limit top below w i).frames = top' :: below ∧ top'.wait = 0 := by
  obtain ⟨top', hframes, hsame⟩ := Command.execute_stops h
  exact ⟨top', hframes, hsame.trans hwait⟩

/-- As long as the loop goes on it lets no frame count down. -/
theorem Turns.not_countsDown (h : m.Turns limit m') : ¬ m.frames.CountsDown m'.frames := by
  rintro ⟨top', below', hframes, hwaits, -⟩
  cases h with
  | drop hwait | execute hwait =>
    cases hframes
    exact hwaits hwait

/-- The loop does not end as if nothing had been running. -/
theorem Ends.result_ne_idle (h : m.Ends limit t) : t.result ≠ .ok .idle := by
  cases h <;> simp

/-- Nothing is left on the stack exactly if the tick says that it has finished. -/
theorem Ends.frames_eq_nil_iff (h : m.Ends limit t) : t.frames = [] ↔ t.result = .ok .finished := by
  cases h with
  | finished | waiting | spent => simp
  | transfers hwait _ hflow | fails hwait _ hflow =>
    obtain ⟨top', hframes, -⟩ := effect_stops hwait (by rw [hflow]; simp)
    simp [hframes]

/-- The last turn lets the frame on top count down exactly if the tick says that it is waiting. -/
theorem Ends.countsDown_iff (h : m.Ends limit t) :
    m.frames.CountsDown t.frames ↔ t.result = .ok .waiting := by
  constructor
  · rintro ⟨top', below', hframes, hwaits, -⟩
    cases h with
    | finished => cases hframes
    | waiting => rfl
    | spent hwait | transfers hwait | fails hwait =>
      cases hframes
      exact absurd hwait hwaits
  · intro hwaiting
    cases h with
    | waiting hwait => exact ⟨_, _, rfl, hwait, rfl⟩
    | finished | spent | transfers | fails => cases hwaiting

/-- A last turn that only lets a frame count down executes nothing and leaves the world alone. -/
theorem Ends.of_waiting (h : m.Ends limit t) (hwaiting : t.result = .ok .waiting) :
    m.next? = none ∧ t.world = m.world := by
  cases h with
  | @waiting left top below w hwait =>
    have hnext : next? ⟨left, top :: below, w⟩ = none := by
      cases left with
      | zero => rfl
      | succ left => exact if_neg hwait
    exact ⟨hnext, rfl⟩
  | finished | spent | transfers | fails => cases hwaiting

/-- When the tick yields, the frame on top does not wait. -/
theorem Ends.of_yielded (h : m.Ends limit t) (hyielded : t.result = .ok .yielded) :
    ∃ top below, t.frames = top :: below ∧ top.wait = 0 := by
  cases h with
  | spent hwait => exact ⟨_, _, rfl, hwait⟩
  | transfers hwait _ hflow =>
    obtain ⟨top', hframes, hwait'⟩ := effect_stops hwait (by rw [hflow]; simp)
    exact ⟨top', _, hframes, hwait'⟩
  | finished | waiting | fails => cases hyielded

/-- The tick yields for a transfer, which is its last command, or because it has executed as many
commands as it could. -/
theorem Leads.commands_of_yielded (hleads : m.Leads limit m') (hends : m'.Ends limit t)
    (hyielded : t.result = .ok .yielded) :
    (∃ request, (m.commands limit).getLast? = some (.transfer (some request))) ∨
      (m.commands limit).length = m.left := by
  obtain ⟨before, hcommands, hleft, -⟩ := hleads.commands_eq
  rcases hends.spent_or_more with ⟨hspent, -, -⟩ | ⟨-, htransfer⟩
  · right
    have hnone : m'.commands limit = [] := by rw [commands, hspent, executed]
    rw [hcommands, hnone, List.append_nil]
    omega
  · left
    obtain ⟨request, hrequest⟩ := htransfer hyielded
    exact ⟨request, by rw [hcommands, hrequest, List.getLast?_concat]⟩

/-- Of the turns of a tick only the last one can let a frame count down. It does so exactly if the
tick says that it is waiting, and nothing is executed then. -/
theorem countsDown_of_isChain {later : List Moment}
    (hchain : (m :: later).IsChain (Turns limit))
    (hends : ((m :: later).getLast (List.cons_ne_nil _ _)).Ends limit t) :
    let last := (m :: later).getLast (List.cons_ne_nil _ _)
    ((m :: later).IsChain fun m m' => ¬ m.frames.CountsDown m'.frames) ∧
      (t.result = .ok .waiting ↔ last.frames.CountsDown t.frames) ∧
      (t.result = .ok .waiting → last.next? = none ∧ t.world = last.world) := by
  intro last
  have hsteady : (m :: later).IsChain fun m m' => ¬ m.frames.CountsDown m'.frames :=
    hchain.imp fun _ _ hturn => hturn.not_countsDown
  exact ⟨hsteady, hends.countsDown_iff.symm, hends.of_waiting⟩

end Moment

namespace Interpreter

/-- **The outcome tells the truth about the stack.** Whatever the interpreter runs and in whatever
world: a tick is idle exactly if nothing was running, and it has finished exactly if something was
running and nothing is left. When it waits, when it yields and when it fails, something is left.
Something that runs is taken by the loop through some moments up to its last turn; none of the turns
before that lets a frame count down, the last one does exactly if the tick is waiting, and then it
executes nothing and leaves the world alone. When the tick yields, the frame on top does not wait,
and either the last command was a transfer that can be carried out or the budget is used up. -/
theorem tick_outcome (baseDepth : UInt32) (config : InterpreterConfig) (frames : FrameStack)
    (w : World) :
    let i : Interpreter := { ofConfig baseDepth config with frames }
    let t := i.tick w
    (t.result = .ok .idle ↔ frames = []) ∧
    (t.result = .ok .finished ↔ frames ≠ [] ∧ t.frames = []) ∧
    (t.result = .ok .waiting ∨ t.result = .ok .yielded ∨ (∃ fault, t.result = .error fault) →
      t.frames ≠ []) ∧
    (frames ≠ [] → ∃ later, (i.opening w :: later).IsChain (Moment.Turns i.maxDepth) ∧
      ((i.opening w :: later).getLast (List.cons_ne_nil _ _)).Ends i.maxDepth t) ∧
    (∀ later, (i.opening w :: later).IsChain (Moment.Turns i.maxDepth) →
      let last := (i.opening w :: later).getLast (List.cons_ne_nil _ _)
      last.Ends i.maxDepth t →
        ((i.opening w :: later).IsChain fun m m' => ¬ m.frames.CountsDown m'.frames) ∧
        (t.result = .ok .waiting ↔ last.frames.CountsDown t.frames) ∧
        (t.result = .ok .waiting → last.next? = none ∧ t.world = last.world)) ∧
    (t.result = .ok .yielded → (∃ top below, t.frames = top :: below ∧ top.wait = 0) ∧
      ((∃ request, (i.commands w).getLast? = some (.transfer (some request))) ∨
        (i.commands w).length = max 1 config.commandsPerTick)) := by
  intro i t
  by_cases hempty : frames = []
  · have htick : t = ⟨.ok .idle, [], w⟩ := tick_idle w hempty
    refine ⟨?_, ?_, ?_, fun hrunning => absurd hempty hrunning, ?_, ?_⟩
    · simp [htick, hempty]
    · simp [htick, hempty]
    · simp [htick]
    · exact fun _ hchain hends => Moment.countsDown_of_isChain hchain hends
    · simp [htick]
  · obtain ⟨m, hleads, hends⟩ := Moment.exists_ends i.maxDepth (i.opening w)
    have htick : t = (i.opening w).run i.maxDepth := tick_eq_run w hempty
    rw [← htick] at hends
    obtain ⟨later, hchain, hlast⟩ := List.exists_isChain_cons_of_relationReflTransGen hleads
    refine ⟨?_, ?_, ?_, fun _ => ⟨later, hchain, hlast ▸ hends⟩, ?_, fun hyielded => ?_⟩
    · simp [hends.result_ne_idle, hempty]
    · simp [hends.frames_eq_nil_iff, hempty]
    · rw [Ne, hends.frames_eq_nil_iff]
      rintro (hresult | hresult | ⟨fault, hresult⟩) <;> simp [hresult]
    · exact fun _ hchain hends => Moment.countsDown_of_isChain hchain hends
    · refine ⟨hends.of_yielded hyielded, ?_⟩
      have hbudget : (i.opening w).left = max 1 config.commandsPerTick := Nat.max_comm _ _
      rw [← hbudget]
      exact hleads.commands_of_yielded hends hyielded

/-- Where a wait uses up the budget, the tick waits and does not yield. -/
example :
    let pause : Instruction := { code := 106, parameters := [.int 2] }
    let i : Interpreter := { ofConfig 0 { commandsPerTick := 1 } with
      frames := [{ depth := 0, list := [pause] }] }
    (i.tick default).result = .ok .waiting := by
  rfl

end Interpreter

end Overworld
