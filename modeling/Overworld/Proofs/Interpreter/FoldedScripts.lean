import Overworld.Proofs.Interpreter.ScriptBlocks

/-!
# Lists with folded scripts

A frame runs a list with a script of several lines as it runs the list in which the script is one
command: turn by turn of a tick, and tick by tick, with the same outcomes in the same world. On the
way it never comes to stand in front of a line that continues the script.
-/

namespace Overworld

/-- The frames that a command can leave: those that wait, a child at the beginning of its list, and
the running frame, at its place or behind the lines of a script. -/
inductive Frame.LeftBy (c : Command) (top : Frame) (below : FrameStack) : Frame → Prop
  | waits {f : Frame} (hf : f ∈ below) : LeftBy c top below f
  | begins {f : Frame} (hcursor : f.cursor = 0) : LeftBy c top below f
  | stays {f : Frame} (hlist : f.list = top.list) (hcursor : f.cursor = top.cursor)
      (hscript : ∀ line, c ≠ .script line) : LeftBy c top below f
  | behindScript : LeftBy c top below top.pastScript

section

variable {limit : UInt32} {c : Command} {f top child : Frame} {below : FrameStack} {w : World}

/-- A child begins at the beginning of its list. -/
theorem Frame.Calls.cursor_eq (h : top.Calls limit w child) : child.cursor = 0 := by
  cases h with
  | common => rfl
  | event hchild =>
    obtain ⟨e, -, -, -, hframe⟩ := CallTarget.childFrame_some hchild
    obtain ⟨list, -, rfl⟩ := Option.map_eq_some_iff.mp hframe
    rfl

/-- Behind a script stand the frames that wait, the running frame and a child that it has called. -/
theorem Frame.callScript_leftBy {line : String}
    (h : f ∈ (top.callScript limit below line w).frames) : top.LeftBy c below f := by
  have hstack (hf : f ∈ top.pastScript :: below) : top.LeftBy c below f := by
    rcases List.mem_cons.mp hf with rfl | hf
    · exact .behindScript
    · exact .waits hf
  unfold Frame.callScript at h
  obtain ⟨⟨result, w'⟩, hrun⟩ : ∃ answer, runScript (top.scriptText line)
    { depth := top.depth, limit, event := top.event } w = answer := ⟨_, rfl⟩
  rw [hrun] at h
  obtain ⟨s, hsteps, -, hchild⟩ := runScript_steps hrun
  rcases result with _ | _ | child
  · exact hstack h
  · exact hstack h
  · rcases List.mem_cons.mp h with rfl | h
    · obtain ⟨target, htarget⟩ := hsteps.child_of (hchild _ rfl)
      exact .begins (Frame.Calls.event htarget).cursor_eq
    · exact hstack h

/-- Every command leaves such frames. -/
theorem Command.execute_leftBy (h : f ∈ (c.execute limit top below w).frames) :
    top.LeftBy c below f := by
  by_cases hscript : ∃ line, c = .script line
  · obtain ⟨line, rfl⟩ := hscript
    exact Frame.callScript_leftBy h
  have hplain (line : String) : c ≠ .script line := fun hc => hscript ⟨line, hc⟩
  have hstack {g : Frame} (hlist : g.list = top.list) (hcursor : g.cursor = top.cursor)
      (hf : f ∈ g :: below) : top.LeftBy c below f := by
    rcases List.mem_cons.mp hf with rfl | hf
    · exact .stays hlist hcursor hplain
    · exact .waits hf
  cases c with
  | script line => exact absurd rfl (hplain line)
  | comment | scriptLine | unsupported | setSelfSwitch => exact hstack rfl rfl h
  | wait ticks => exact hstack (g := { top with wait := ticks }) rfl rfl h
  | exit => exact .waits h
  | finish outermost =>
    cases outermost
    · exact hstack rfl rfl h
    · exact .waits h
  | transfer request => cases request <;> exact hstack rfl rfl h
  | callCommon id =>
    simp only [Command.execute] at h
    split at h
    · exact hstack rfl rfl h
    · simp only [Frame.callCommon] at h
      split at h
      · exact hstack rfl rfl h
      · rcases List.mem_cons.mp h with rfl | h
        · exact .begins rfl
        · exact hstack rfl rfl h

end

namespace ScriptBlock

variable {b : ScriptBlock}

section

variable {m m₁ m' : Moment} {t : Tick} {limit : UInt32}

/-- Two moments with frames that correspond, at which as many commands are left. -/
structure MomentSpreads (b : ScriptBlock) (m m' : Moment) : Prop where
  left_eq : m'.left = m.left
  frames : List.Forall₂ b.Spreads m.frames m'.frames
  world_eq : m'.world = m.world

/-- Two ticks that lead to the same, with frames that correspond. -/
structure TickSpreads (b : ScriptBlock) (t t' : Tick) : Prop where
  result_eq : t'.result = t.result
  frames : List.Forall₂ b.Spreads t.frames t'.frames
  world_eq : t'.world = t.world

/-- Where a turn of the loop is taken, one is taken with frames that correspond. -/
theorem MomentSpreads.turns (h : b.MomentSpreads m m') (hturn : m.Turns limit m₁) :
    ∃ m₁', m'.Turns limit m₁' ∧ b.MomentSpreads m₁ m₁' := by
  obtain ⟨left', frames', w'⟩ := m'
  obtain ⟨rfl, hframes, rfl⟩ := h
  cases hturn with
  | drop hwait hdone =>
    obtain ⟨top', below', htop, hbelow, rfl⟩ := List.forall₂_cons_left_iff.mp hframes
    have hdone' := htop.getElem?_eq_none hdone
    exact ⟨_, .drop (htop.twins.wait_eq.trans hwait) hdone', rfl, hbelow, rfl⟩
  | execute hwait hnext hflow =>
    obtain ⟨top', below', htop, hbelow, rfl⟩ := List.forall₂_cons_left_iff.mp hframes
    obtain ⟨i', hnext', -, heffect⟩ := htop.effect limit hbelow hnext
    exact ⟨_, .execute (htop.twins.wait_eq.trans hwait) hnext' (heffect.flow_eq.trans hflow), rfl,
      heffect.frames, heffect.world_eq⟩

/-- Where the loop takes some turns, it takes some with frames that correspond. -/
theorem MomentSpreads.leads (h : b.MomentSpreads m m') (hleads : m.Leads limit m₁) :
    ∃ m₁', m'.Leads limit m₁' ∧ b.MomentSpreads m₁ m₁' := by
  induction hleads with
  | refl => exact ⟨m', .refl, h⟩
  | tail _ hturn ih =>
    obtain ⟨m₂, hleads', h⟩ := ih
    obtain ⟨m₃, hturn', h⟩ := h.turns hturn
    exact ⟨m₃, hleads'.tail hturn', h⟩

/-- Where the loop ends, it ends alike with frames that correspond. -/
theorem MomentSpreads.ends (h : b.MomentSpreads m m') (hends : m.Ends limit t) :
    ∃ t', m'.Ends limit t' ∧ b.TickSpreads t t' := by
  obtain ⟨left', frames', w'⟩ := m'
  obtain ⟨rfl, hframes, rfl⟩ := h
  cases hends with
  | finished =>
    cases hframes
    exact ⟨_, .finished, rfl, .nil, rfl⟩
  | waiting hwait =>
    obtain ⟨top', below', htop, hbelow, rfl⟩ := List.forall₂_cons_left_iff.mp hframes
    have hwaits := htop.twins.wait_eq
    refine ⟨_, .waiting (hwaits ▸ hwait), rfl, .cons ?_ hbelow, rfl⟩
    rw [hwaits]
    exact htop.withWait _
  | spent hwait =>
    obtain ⟨top', below', htop, hbelow, rfl⟩ := List.forall₂_cons_left_iff.mp hframes
    exact ⟨_, .spent (htop.twins.wait_eq.trans hwait), rfl, .cons htop hbelow, rfl⟩
  | transfers hwait hnext hflow =>
    obtain ⟨top', below', htop, hbelow, rfl⟩ := List.forall₂_cons_left_iff.mp hframes
    obtain ⟨i', hnext', -, heffect⟩ := htop.effect limit hbelow hnext
    exact ⟨_, .transfers (htop.twins.wait_eq.trans hwait) hnext' (heffect.flow_eq.trans hflow), rfl,
      heffect.frames, heffect.world_eq⟩
  | fails hwait hnext hflow =>
    obtain ⟨top', below', htop, hbelow, rfl⟩ := List.forall₂_cons_left_iff.mp hframes
    obtain ⟨i', hnext', -, heffect⟩ := htop.effect limit hbelow hnext
    exact ⟨_, .fails (htop.twins.wait_eq.trans hwait) hnext' (heffect.flow_eq.trans hflow), rfl,
      heffect.frames, heffect.world_eq⟩

end

section

variable {frames frames' : FrameStack} {limit : UInt32}

/-- Frames that correspond are dropped together when they have run off their lists. -/
theorem settle_spreads (h : List.Forall₂ b.Spreads frames frames') :
    List.Forall₂ b.Spreads frames.settle frames'.settle := by
  induction h with
  | nil => exact .nil
  | @cons top top' below below' htop hbelow ih =>
    have hwait := htop.twins.wait_eq
    cases hnext : top.list[top.cursor]? with
    | none =>
      have hnext' := htop.getElem?_eq_none hnext
      by_cases hwaits : top.wait = 0
      · rw [Moment.settle_drop hwaits hnext, Moment.settle_drop (hwait.trans hwaits) hnext']
        exact ih
      · rw [Moment.settle_cons fun h => hwaits h.1,
          Moment.settle_cons fun h => hwaits (hwait.symm.trans h.1)]
        exact .cons htop hbelow
    | some i =>
      obtain ⟨i', hnext', -, -⟩ := htop.effect 0 (w := default) hbelow hnext
      rw [Moment.settle_cons fun h => by simp [hnext] at h,
        Moment.settle_cons fun h => by simp [hnext'] at h]
      exact .cons htop hbelow

/-- Stacks of frames that correspond execute the same commands, one by one, but for the text of the
script. -/
theorem executed_spreads (h : List.Forall₂ b.Spreads frames frames') (w : World) (budget : Nat) :
    List.Forall₂ b.ReadsAs (Moment.executed limit budget frames w)
      (Moment.executed limit budget frames' w) := by
  induction budget generalizing frames frames' w with
  | zero => exact .nil
  | succ budget ih =>
    have hsettle := settle_spreads h
    rw [Moment.executed, Moment.executed]
    generalize frames.settle = settled, frames'.settle = settled' at hsettle
    cases hsettle with
    | nil => exact .nil
    | @cons top top' below below' htop hbelow =>
      simp only [htop.twins.wait_eq]
      by_cases hwaits : top.wait = 0
      · simp only [if_pos hwaits]
        cases hnext : top.list[top.cursor]? with
        | none =>
          rw [htop.getElem?_eq_none hnext]
          exact .nil
        | some i =>
          obtain ⟨i', hnext', hreads, heffect⟩ := htop.effect limit hbelow hnext
          rw [hnext']
          refine .cons hreads ?_
          rw [heffect.flow_eq, heffect.world_eq]
          split
          · exact ih heffect.frames _
          · exact .nil
      · simp only [if_neg hwaits]
        exact .nil

/-- Of frames that correspond the same ones may go on running on a map. -/
theorem revalidate_spreads (h : List.Forall₂ b.Spreads frames frames') (map : FieldMap) :
    List.Forall₂ b.Spreads (frames.revalidate map) (frames'.revalidate map) := by
  have htake {stack stack' : FrameStack} (h : List.Forall₂ b.Spreads stack stack') :
      List.Forall₂ b.Spreads ((stack.takeWhile (Frame.ownerPresent map)).map (Frame.rebound map))
        ((stack'.takeWhile (Frame.ownerPresent map)).map (Frame.rebound map)) := by
    induction h with
    | nil => exact .nil
    | @cons f f' _ _ hf _ ih =>
      rw [List.takeWhile_cons, List.takeWhile_cons, hf.ownerPresent_eq]
      split
      · exact .cons (hf.rebound map) ih
      · exact .nil
  exact List.forall₂_reverse_iff.mpr (htake (List.forall₂_reverse_iff.mpr h))

end

/-- Two interpreters that differ at most in their frames, and these correspond. -/
structure InterpreterSpreads (b : ScriptBlock) (i i' : Interpreter) : Prop where
  settings_eq : i' = { i with frames := i'.frames }
  frames : List.Forall₂ b.Spreads i.frames i'.frames

section

variable {i i' : Interpreter} {w : World}

/-- The first moments of their ticks. -/
theorem InterpreterSpreads.opening (h : b.InterpreterSpreads i i') :
    b.MomentSpreads (i.opening w) (i'.opening w) := by
  rw [h.settings_eq]
  exact ⟨rfl, revalidate_spreads h.frames w.map, rfl⟩

/-- Their ticks lead to the same. -/
theorem InterpreterSpreads.tick (h : b.InterpreterSpreads i i') :
    b.TickSpreads (i.tick w) (i'.tick w) := by
  by_cases hempty : i.frames = []
  · have hempty' : i'.frames = [] := List.forall₂_nil_left_iff.mp (hempty ▸ h.frames)
    rw [Interpreter.tick_idle w hempty, Interpreter.tick_idle w hempty']
    exact ⟨rfl, .nil, rfl⟩
  · have hempty' : i'.frames ≠ [] := fun hnone =>
      hempty (List.forall₂_nil_right_iff.mp (hnone ▸ h.frames))
    have hdepth : i'.maxDepth = i.maxDepth := by rw [h.settings_eq]
    obtain ⟨m, hleads, hends⟩ := Moment.exists_ends i.maxDepth (i.opening w)
    obtain ⟨m', hleads', hm⟩ := h.opening.leads hleads
    obtain ⟨t', hends', htick⟩ := hm.ends hends
    rw [Interpreter.tick_eq_run w hempty, Interpreter.tick_eq_run w hempty', hdepth,
      hleads'.run_eq, hends'.run_eq]
    exact htick

/-- Their updates lead to the same, and to interpreters that differ as little. -/
theorem InterpreterSpreads.update (h : b.InterpreterSpreads i i') :
    (i'.update w).1 = (i.update w).1 ∧ b.InterpreterSpreads (i.update w).2.1 (i'.update w).2.1 ∧
      (i'.update w).2.2 = (i.update w).2.2 := by
  have htick := h.tick (w := w)
  rw [Interpreter.update_eq, Interpreter.update_eq]
  refine ⟨htick.result_eq, ⟨?_, htick.frames⟩, htick.world_eq⟩
  rw [h.settings_eq]

/-- Their ticks execute the same commands, but for the text of the script. -/
theorem InterpreterSpreads.commands (h : b.InterpreterSpreads i i') :
    List.Forall₂ b.ReadsAs (i.commands w) (i'.commands w) := by
  rw [h.settings_eq]
  exact executed_spreads (revalidate_spreads h.frames w.map) w i.commandsPerTick

/-- Any number of updates leads to the same. -/
theorem InterpreterSpreads.after (h : b.InterpreterSpreads i i') (n : Nat) :
    b.InterpreterSpreads (i.after w n).1 (i'.after w n).1 ∧
      (i'.after w n).2 = (i.after w n).2 := by
  induction n with
  | zero => exact ⟨h, rfl⟩
  | succ n ih =>
    obtain ⟨hn, hworld⟩ := ih
    obtain ⟨-, hnext, hsame⟩ := hn.update (w := (i.after w n).2)
    rw [Interpreter.after, Interpreter.after, hworld]
    exact ⟨hnext, hsame⟩

end

/-- A frame whose next instruction is a line that continues the script. -/
def InLines (b : ScriptBlock) (f : Frame) : Prop :=
  f.list = b.list ∧ b.before.length < f.cursor ∧ f.cursor ≤ b.before.length + b.lines.length

/-- No frame is about to execute a line that continues the script. -/
def OffLines (b : ScriptBlock) (frames : FrameStack) : Prop := ∀ f ∈ frames, ¬ b.InLines f

section

variable {f top : Frame} {below frames : FrameStack} {limit : UInt32} {w : World}

/-- The lines of the block are lines that continue a script. -/
theorem InLines.code_eq (h : b.InLines f) : ∃ i, f.list[f.cursor]? = some i ∧ i.code = 655 := by
  obtain ⟨hlist, hbegin, hend⟩ := h
  obtain ⟨index, hcursor⟩ := Nat.exists_eq_add_of_lt hbegin
  have hindex : index < b.lines.length := by omega
  refine ⟨b.lines[index], ?_, b.line_code _ (List.getElem_mem hindex)⟩
  rw [hlist, hcursor, list, Nat.add_assoc, List.getElem?_append_right (Nat.le_add_right ..),
    Nat.add_sub_cancel_left, List.getElem?_cons_succ, List.getElem?_append_left hindex,
    List.getElem?_eq_getElem hindex]

/-- Wherever the list as written corresponds to the folded one, no line is about to be executed. -/
theorem spread_offLines (f : Frame) : ¬ b.InLines (b.spread f) := by
  rintro ⟨-, hbegin, hend⟩
  rcases Nat.lt_or_ge b.before.length f.cursor with hlt | hle
  · simp only [spread, place_of_lt hlt] at hend
    omega
  · simp only [spread, place_of_le hle] at hbegin
    omega

/-- A command does not lead into the lines: the command of the script leads behind them. -/
theorem effect_offLines {i : Instruction} (h : b.OffLines (top :: below))
    (hnext : top.list[top.cursor]? = some i) :
    b.OffLines (Moment.effect limit top below w i).frames := by
  obtain ⟨htop, hbelow⟩ := List.forall_mem_cons.mp h
  intro f hf hlines
  cases Command.execute_leftBy hf with
  | waits hf => exact hbelow f hf hlines
  | begins hcursor =>
    have hbegin := hlines.2.1
    omega
  | behindScript =>
    obtain ⟨line, hline, hcode⟩ := hlines.code_eq
    let rest := top.list.drop (top.cursor + 1)
    have hbehind : rest[(scriptLines rest).length]? = some line := by
      rw [List.getElem?_drop]
      exact hline
    exact code_behind_scriptLines hbehind hcode
  | stays hlist hcursor hscript =>
    -- The only place from which one step leads into the lines is that of the script's command.
    obtain ⟨hsame, hbegin, hend⟩ := hlines
    simp only at hlist hcursor
    have hplace : top.cursor = b.before.length := by
      by_contra hother
      exact htop ⟨hlist.symm.trans hsame, by omega, by omega⟩
    rw [← hlist, hsame, hplace, ← place_of_le (Nat.le_refl _), getElem?_script.1] at hnext
    cases hnext
    exact hscript _ head_command

/-- A turn of the loop does not lead into the lines. -/
theorem turns_offLines {m m' : Moment} (h : b.OffLines m.frames) (hturn : m.Turns limit m') :
    b.OffLines m'.frames := by
  cases hturn with
  | drop => exact (List.forall_mem_cons.mp h).2
  | execute _ hnext => exact effect_offLines h hnext

/-- No turns of the loop lead into the lines. -/
theorem leads_offLines {m m' : Moment} (h : b.OffLines m.frames) (hleads : m.Leads limit m') :
    b.OffLines m'.frames := by
  induction hleads with
  | refl => exact h
  | tail _ hturn ih => exact turns_offLines ih hturn

/-- The check of a map does not lead into the lines. -/
theorem revalidate_offLines (h : b.OffLines frames) (map : FieldMap) :
    b.OffLines (frames.revalidate map) := by
  intro f hf
  simp only [FrameStack.revalidate, List.mem_reverse, List.mem_map] at hf
  obtain ⟨g, hg, rfl⟩ := hf
  obtain ⟨hlist, hcursor⟩ := g.rebound_place map
  rw [InLines, hlist, hcursor]
  exact h g (List.mem_reverse.mp ((List.takeWhile_sublist _).mem hg))

/-- No number of updates leads into the lines. -/
theorem after_offLines {i : Interpreter} (h : b.OffLines i.frames) (n : Nat) :
    b.OffLines (i.after w n).1.frames := by
  induction n with
  | zero => exact h
  | succ n ih =>
    rw [Interpreter.after, Interpreter.update_eq]
    refine Interpreter.tick_induction (P := fun frames _ => b.OffLines frames)
      (revalidate_offLines ih _) ?_ (fun hnext h => effect_offLines h hnext) ?_
    · exact fun h => (List.forall_mem_cons.mp h).2
    · intro top below w h
      exact List.forall_mem_cons.mpr (List.forall_mem_cons.mp h)

end

/-- Two interpreters in their worlds, one with the folded list and one with the list as written: the
worlds are the same, the frames correspond, and the next tick has the same outcome or the same
fault, by the same commands. -/
structure RunsAlike (b : ScriptBlock) (x x' : Interpreter × World) : Prop where
  world_eq : x'.2 = x.2
  frames : List.Forall₂ b.Spreads x.1.frames x'.1.frames
  result_eq : (x'.1.update x'.2).1 = (x.1.update x.2).1
  commands : List.Forall₂ b.ReadsAs (x.1.commands x.2) (x'.1.commands x'.2)

variable (b)

/-- The interpreter while a frame runs the folded list. -/
def foldedIn (i : Interpreter) (above below : FrameStack) (f : Frame) : Interpreter :=
  { i with frames := above ++ { f with list := b.folded } :: below }

/-- The interpreter while a frame runs the list as written, from the corresponding place. -/
def spreadIn (i : Interpreter) (above below : FrameStack) (f : Frame) : Interpreter :=
  { i with frames := above ++ b.spread f :: below }

/-- **A script of several lines is one script.** A frame runs the list as written as it would run
the folded list, whatever other frames are on the stack: after any number of ticks the worlds are
the same and the frames correspond, and the next tick has the same outcome or the same fault, by the
same commands. No line that continues the script is ever a command of its own, unless a frame that
runs the list has been put in front of one from outside. -/
theorem script_block_runs_as_one (i : Interpreter) (above below : FrameStack) (f : Frame)
    (w : World) (n : Nat) :
    b.RunsAlike ((b.foldedIn i above below f).after w n) ((b.spreadIn i above below f).after w n) ∧
      (b.OffLines (above ++ below) → ∀ m : Moment,
        Moment.Leads i.maxDepth (((b.spreadIn i above below f).after w n).1.opening
          ((b.spreadIn i above below f).after w n).2) m → b.OffLines m.frames) := by
  have hsame (stack : FrameStack) : List.Forall₂ b.Spreads stack stack :=
    List.forall₂_same.mpr fun g _ => .other g
  have hbegin : b.InterpreterSpreads (b.foldedIn i above below f) (b.spreadIn i above below f) :=
    ⟨rfl, List.rel_append (hsame above)
      (.cons (.running (f := { f with list := b.folded }) rfl) (hsame below))⟩
  obtain ⟨hafter, hworld⟩ := hbegin.after (w := w) n
  constructor
  · obtain ⟨hresult, -, -⟩ := hafter.update (w := ((b.foldedIn i above below f).after w n).2)
    exact ⟨hworld, hafter.frames, hworld ▸ hresult, hworld ▸ hafter.commands⟩
  · intro hothers m hleads
    obtain ⟨habove, hbelow⟩ := List.forall_mem_append.mp hothers
    have hstart : b.OffLines (b.spreadIn i above below f).frames :=
      List.forall_mem_append.mpr ⟨habove, List.forall_mem_cons.mpr ⟨spread_offLines f, hbelow⟩⟩
    exact leads_offLines (revalidate_offLines (after_offLines hstart n) _) hleads

/-- A greeting over four lines, one of which has no text. -/
private def greeting : ScriptBlock where
  before := [{ code := 108 }]
  head := { code := 355, parameters := [.str "log("] }
  lines :=
    [{ code := 655, parameters := [.str "\"hello\""] }, { code := 655, parameters := [.int 3] },
      { code := 655, parameters := [.str ");"] }]
  after := [{ code := 106, parameters := [.int 1] }]
  head_code := rfl
  line_code := by decide
  after_code := by rintro next ⟨⟩; decide

/-- The first tick has commands for the comment, for one script and for the wait. So it logs the
greeting and waits, and the second tick ends the list. -/
theorem script_block_runs_as_one_greeting :
    let i : Interpreter := { maxDepth := 3, commandsPerTick := 3 }
    let w : World := { map := {}, tables := {} }
    let later := (greeting.spreadIn i [] [] { depth := 0, event := 5, list := [] }).after w 1
    greeting.text = "log(\n\"hello\"\n\n);" ∧ later.2.notices = [.scriptLog 5 "hello"] ∧
      (later.1.update later.2).1 = .ok .finished ∧
      ∀ m : Moment, Moment.Leads i.maxDepth (later.1.opening later.2) m →
        greeting.OffLines m.frames := by
  intro i w later
  obtain ⟨halike, hoff⟩ :=
    greeting.script_block_runs_as_one i [] [] { depth := 0, event := 5, list := [] } w 1
  refine ⟨by decide +kernel, ?_, ?_, hoff (List.forall_mem_nil _)⟩
  · rw [halike.world_eq]
    decide +kernel
  · rw [halike.result_eq]
    decide +kernel

end ScriptBlock

end Overworld
