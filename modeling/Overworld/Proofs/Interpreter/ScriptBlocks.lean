import Mathlib.Data.List.Forall2
import Overworld.Proofs.Interpreter.Owners

/-!
# Scripts of several lines

A script may go on over further lines of its list. To run it is to run one script with all of the
text, and the frame moves past the lines at once. So from corresponding places a list with such a
block does, command by command, what the list does in which the block is folded into one.
-/

namespace Overworld

/-- The text of an instruction's first parameter, if it is a text. -/
def Instruction.lineText (i : Instruction) : String := (i.textParameter? 0).getD ""

/-- The lines that continue a script are those with the code for it. -/
theorem Instruction.command_eq_scriptLine {i : Instruction} {line : String} :
    i.command = .scriptLine line ↔ i.code = 655 ∧ i.lineText = line := by
  constructor
  · intro h
    unfold Instruction.command at h
    split at h
    case h_10 hcode =>
      cases h
      exact ⟨Int32.toInt_inj.mp hcode, rfl⟩
    all_goals cases h
  · rintro ⟨hcode, rfl⟩
    simp [Instruction.command, hcode, Instruction.lineText]

section

variable {lines before after list : List Instruction} {i : Instruction}

/-- A list that begins with another instruction continues no script. -/
theorem scriptLines_eq_nil (h : ∀ next, list.head? = some next → next.code ≠ 655) :
    scriptLines list = [] := by
  cases list with
  | nil => rfl
  | cons next rest =>
    rw [scriptLines]
    split
    case h_1 hline => exact absurd (Instruction.command_eq_scriptLine.mp hline).1 (h next rfl)
    case h_2 => rfl

/-- The lines that continue a script end where another instruction comes. -/
theorem scriptLines_append (hlines : ∀ line ∈ lines, line.code = 655)
    (hafter : ∀ next, after.head? = some next → next.code ≠ 655) :
    scriptLines (lines ++ after) = lines.map Instruction.lineText := by
  induction lines with
  | nil => exact scriptLines_eq_nil hafter
  | cons line lines ih =>
    obtain ⟨hline, hlines⟩ := List.forall_mem_cons.mp hlines
    rw [List.cons_append, scriptLines, Instruction.command_eq_scriptLine.mpr ⟨hline, rfl⟩,
      ih hlines, List.map_cons]

/-- The lines that continue a script do not reach over another instruction. -/
theorem scriptLines_append_cons (hcode : i.code ≠ 655) :
    scriptLines (before ++ i :: after) = scriptLines before := by
  induction before with
  | nil =>
    refine scriptLines_eq_nil fun next hnext => ?_
    cases hnext
    exact hcode
  | cons first before ih => rw [List.cons_append, scriptLines, scriptLines, ih]

/-- Behind the lines that continue a script there is no further one. -/
theorem code_behind_scriptLines (h : list[(scriptLines list).length]? = some i) :
    i.code ≠ 655 := by
  induction list with
  | nil => cases h
  | cons first rest ih =>
    rw [scriptLines] at h
    split at h
    case h_1 => exact ih h
    case h_2 hother =>
      cases h
      exact fun hcode => hother _ (Instruction.command_eq_scriptLine.mpr ⟨hcode, rfl⟩)

end

/-- The check of a map changes neither the list nor the place of a frame. -/
theorem Frame.rebound_place (f : Frame) (map : FieldMap) :
    (f.rebound map).list = f.list ∧ (f.rebound map).cursor = f.cursor := by
  unfold Frame.rebound
  split
  · split <;> exact ⟨rfl, rfl⟩
  · exact ⟨rfl, rfl⟩

/-- Two frames that differ in their lists and their places alone. -/
structure Frame.Twins (f f' : Frame) : Prop where
  depth_eq : f'.depth = f.depth
  source_eq : f'.source = f.source
  event_eq : f'.event = f.event
  wait_eq : f'.wait = f.wait

/-- A list with a script of several lines in it: the command of the script, the lines that continue
it, and what stands before and after them. -/
structure ScriptBlock where
  before : List Instruction
  head : Instruction
  lines : List Instruction
  after : List Instruction
  head_code : head.code = 355
  line_code : ∀ line ∈ lines, line.code = 655
  after_code : ∀ next, after.head? = some next → next.code ≠ 655

namespace ScriptBlock

variable (b : ScriptBlock)

/-- The list as written. -/
def list : List Instruction := b.before ++ b.head :: (b.lines ++ b.after)

/-- The text of the whole script. -/
def text : String := "\n".intercalate ((b.head :: b.lines).map Instruction.lineText)

/-- The command that holds the whole script. -/
def wholeHead : Instruction := { b.head with parameters := [.str b.text] }

/-- The list in which the script is one command. -/
def folded : List Instruction := b.before ++ b.wholeHead :: b.after

/-- The place in the list as written of a place in the folded list. No line that continues the
script is such a place. -/
def place (cursor : Nat) : Nat :=
  if cursor ≤ b.before.length then cursor else cursor + b.lines.length

/-- The frame that runs the list as written in the place of one that runs the folded list. -/
def spread (f : Frame) : Frame := { f with list := b.list, cursor := b.place f.cursor }

/-- Frames that correspond: one that runs the folded list to the one that runs the list as written
from the same place, and any other to itself. -/
inductive Spreads : Frame → Frame → Prop
  | other (f : Frame) : Spreads f f
  | running {f : Frame} (hlist : f.list = b.folded) : Spreads f (b.spread f)

variable {b} {cursor : Nat}

/-- The script begins with its command. -/
theorem head_command : b.head.command = .script b.head.lineText := by
  simp [Instruction.command, b.head_code, Instruction.lineText]

/-- The folded script is one command. -/
theorem wholeHead_command : b.wholeHead.command = .script b.text := by
  simp [Instruction.command, wholeHead, b.head_code, Instruction.textParameter?, Json.asText?]

/-- Up to the script both lists have the same places. -/
theorem place_of_le (h : cursor ≤ b.before.length) : b.place cursor = cursor := if_pos h

/-- Behind the script the list as written has its lines more. -/
theorem place_of_lt (h : b.before.length < cursor) : b.place cursor = cursor + b.lines.length :=
  if_neg (Nat.not_le.mpr h)

/-- Up to the script both lists have the same instructions in front of it. -/
theorem drop_of_le (h : cursor ≤ b.before.length) :
    b.list.drop cursor = b.before.drop cursor ++ b.head :: (b.lines ++ b.after) ∧
      b.folded.drop cursor = b.before.drop cursor ++ b.wholeHead :: b.after :=
  ⟨List.drop_append_of_le_length h, List.drop_append_of_le_length h⟩

/-- Behind the script both lists go on alike. -/
theorem drop_place (h : b.before.length < cursor) :
    b.list.drop (b.place cursor) = b.folded.drop cursor := by
  obtain ⟨rest, rfl⟩ := Nat.exists_eq_add_of_lt h
  have hlist : b.list = (b.before ++ b.head :: b.lines) ++ b.after := by simp [list]
  have hfolded : b.folded = (b.before ++ [b.wholeHead]) ++ b.after := by simp [folded]
  have hplace : b.before.length + rest + 1 + b.lines.length =
      (b.before ++ b.head :: b.lines).length + rest := by simp; omega
  have hcursor : b.before.length + rest + 1 = (b.before ++ [b.wholeHead]).length + rest := by
    simp; omega
  rw [place_of_lt h, hplace, hcursor, hlist, hfolded, List.drop_length_add_append,
    List.drop_length_add_append]

/-- Apart from the script, both lists have the same instruction at corresponding places. -/
theorem getElem?_place (h : cursor ≠ b.before.length) :
    b.list[b.place cursor]? = b.folded[cursor]? := by
  rcases Nat.lt_or_gt_of_ne h with hlt | hgt
  · rw [place_of_le hlt.le, list, folded, List.getElem?_append_left hlt,
      List.getElem?_append_left hlt]
  · rw [← List.head?_drop, ← List.head?_drop, drop_place hgt]

/-- The script stands at the same place in both lists. -/
theorem getElem?_script :
    b.list[b.place b.before.length]? = some b.head ∧
      b.folded[b.before.length]? = some b.wholeHead := by
  rw [place_of_le (Nat.le_refl _), list, folded]
  exact ⟨by simp, by simp⟩

/-- The commands of both lists' scripts are not lines that continue one. -/
theorem head_code_ne : b.head.code ≠ 655 ∧ b.wholeHead.code ≠ 655 := by
  rw [wholeHead, b.head_code]
  decide

/-- From corresponding places the same lines continue a script. -/
theorem scriptLines_place :
    scriptLines (b.list.drop (b.place cursor)) = scriptLines (b.folded.drop cursor) := by
  rcases Nat.lt_or_ge b.before.length cursor with hlt | hle
  · rw [drop_place hlt]
  · obtain ⟨hlist, hfolded⟩ := drop_of_le (b := b) hle
    rw [place_of_le hle, hlist, hfolded, scriptLines_append_cons head_code_ne.1,
      scriptLines_append_cons head_code_ne.2]

/-- The lines that continue a script lead to corresponding places. -/
theorem place_add_scriptLines :
    b.place (cursor + (scriptLines (b.folded.drop cursor)).length) =
      b.place cursor + (scriptLines (b.folded.drop cursor)).length := by
  rcases Nat.lt_or_ge b.before.length cursor with hlt | hle
  · rw [place_of_lt hlt, place_of_lt (by omega), Nat.add_right_comm]
  · -- The script of the block ends the lines that continue one before it.
    rw [(drop_of_le hle).2, scriptLines_append_cons head_code_ne.2, place_of_le hle, place_of_le]
    have hlines := length_scriptLines_le (b.before.drop cursor)
    rw [List.length_drop] at hlines
    omega

section

variable {f f' top top' : Frame} {below below' : FrameStack} {limit : UInt32} {w : World}

/-- Frames that correspond differ in their lists and their places alone. -/
theorem Spreads.twins (h : b.Spreads f f') : f.Twins f' := by
  cases h with
  | other | running => exact ⟨rfl, rfl, rfl, rfl⟩

/-- Frames that correspond go on to do so when they are made to wait. -/
theorem Spreads.withWait (h : b.Spreads f f') (ticks : Nat) :
    b.Spreads { f with wait := ticks } { f' with wait := ticks } := by
  cases h with
  | other => exact .other _
  | running hlist => exact .running (f := { f with wait := ticks }) hlist

/-- Frames that correspond do so also on another map. -/
theorem Spreads.rebound (h : b.Spreads f f') (map : FieldMap) :
    b.Spreads (f.rebound map) (f'.rebound map) := by
  cases h with
  | other => exact .other _
  | running hlist =>
    have hspread : (b.spread f).rebound map = b.spread (f.rebound map) := by
      simp only [Frame.rebound, spread]
      split
      · split <;> rfl
      · rfl
    rw [hspread]
    exact .running ((f.rebound_place map).1.trans hlist)

/-- Frames that correspond have the same owners. -/
theorem Spreads.ownerPresent_eq (h : b.Spreads f f') (map : FieldMap) :
    f'.ownerPresent map = f.ownerPresent map := by
  rw [Frame.ownerPresent, h.twins.source_eq, Frame.ownerPresent]

/-- Two effects of which the one is that of a frame with the list as written, in the place of one
with the folded list. -/
structure EffectSpreads (b : ScriptBlock) (e e' : Effect) : Prop where
  frames : List.Forall₂ b.Spreads e.frames e'.frames
  world_eq : e'.world = e.world
  flow_eq : e'.flow = e.flow

/-- A command that is no script does the same for frames that correspond. -/
theorem Spreads.execute_plain {c : Command} (h : b.Spreads top top')
    (hbelow : List.Forall₂ b.Spreads below below') (hscript : ∀ line, c ≠ .script line) :
    b.EffectSpreads (c.execute limit top below w) (c.execute limit top' below' w) := by
  obtain ⟨hdepth, -, hevent, -⟩ := h.twins
  have hstack : List.Forall₂ b.Spreads (top :: below) (top' :: below') := .cons h hbelow
  cases c with
  | script line => exact absurd rfl (hscript line)
  | comment | scriptLine | unsupported => exact ⟨hstack, rfl, rfl⟩
  | exit => exact ⟨hbelow, rfl, rfl⟩
  | wait ticks => exact ⟨.cons (h.withWait ticks) hbelow, rfl, rfl⟩
  | finish outermost =>
    cases outermost
    · exact ⟨hstack, rfl, rfl⟩
    · exact ⟨hbelow, rfl, rfl⟩
  | transfer request => cases request <;> exact ⟨hstack, rfl, rfl⟩
  | setSelfSwitch assignment =>
    refine ⟨hstack, ?_, rfl⟩
    simp only [Command.execute, Frame.assignSwitch, hevent]
  | callCommon id =>
    simp only [Command.execute]
    split
    · exact ⟨hstack, rfl, rfl⟩
    · simp only [Frame.callCommon, hdepth, hevent]
      split
      · exact ⟨hstack, rfl, rfl⟩
      · exact ⟨.cons (.other _) hstack, rfl, rfl⟩

/-- Two scripts with the same text do the same if frames that correspond are behind them. -/
theorem callScript_spreads {line line' : String} (hbelow : List.Forall₂ b.Spreads below below')
    (htext : top'.scriptText line' = top.scriptText line)
    (hpast : b.Spreads top.pastScript top'.pastScript) :
    b.EffectSpreads (top.callScript limit below line w) (top'.callScript limit below' line' w) := by
  have hdepth : top'.depth = top.depth := hpast.twins.depth_eq
  have hevent : top'.event = top.event := hpast.twins.event_eq
  have hstack : List.Forall₂ b.Spreads (top.pastScript :: below) (top'.pastScript :: below') :=
    .cons hpast hbelow
  unfold Frame.callScript
  rw [htext, hdepth, hevent]
  generalize runScript (top.scriptText line) _ w = answer
  obtain ⟨_ | _ | child, w'⟩ := answer
  · exact ⟨hstack, rfl, rfl⟩
  · exact ⟨hstack, rfl, rfl⟩
  · exact ⟨.cons (.other child) hstack, rfl, rfl⟩

/-- Every command does the same for frames that correspond. -/
theorem Spreads.execute (h : b.Spreads top top')
    (hbelow : List.Forall₂ b.Spreads below below') (c : Command) :
    b.EffectSpreads (c.execute limit top below w) (c.execute limit top' below' w) := by
  by_cases hscript : ∃ line, c = .script line
  · obtain ⟨line, rfl⟩ := hscript
    refine callScript_spreads hbelow ?_ ?_
    · cases h with
      | other => rfl
      | running hlist =>
        simp only [Frame.scriptText, spread, hlist, scriptLines_place]
    · cases h with
      | other => exact .other _
      | running hlist =>
        have hpast : (b.spread top).pastScript = b.spread top.pastScript := by
          simp only [Frame.pastScript, spread, hlist, scriptLines_place, place_add_scriptLines]
        rw [hpast]
        exact .running hlist
  · exact h.execute_plain hbelow fun line hc => hscript ⟨line, hc⟩

/-- What a frame executes next, and what the frame executes that corresponds to it: the same
command, or else both the script of the block. -/
inductive ReadsAs (b : ScriptBlock) : Command → Command → Prop
  | same (c : Command) : ReadsAs b c c
  | script : ReadsAs b (.script b.text) (.script b.head.lineText)

/-- Frames that correspond have run off their lists together. -/
theorem Spreads.getElem?_eq_none (h : b.Spreads f f') (hdone : f.list[f.cursor]? = none) :
    f'.list[f'.cursor]? = none := by
  cases h with
  | other => exact hdone
  | running hlist =>
    rw [hlist] at hdone
    have hother : f.cursor ≠ b.before.length := by
      intro hscript
      rw [hscript, getElem?_script.2] at hdone
      cases hdone
    exact (getElem?_place hother).trans hdone

/-- The script of the block does the same as its command in the folded list. -/
theorem script_spreads (hlist : top.list = b.folded) (hplace : top.cursor = b.before.length)
    (hbelow : List.Forall₂ b.Spreads below below') :
    b.EffectSpreads (Moment.effect limit top below w b.wholeHead)
      (Moment.effect limit (b.spread top) below' w b.head) := by
  -- Past their commands the frames do not correspond, but behind the lines they do again.
  have hwhole : scriptLines (b.folded.drop (b.before.length + 1)) = [] := by
    have hdrop : b.folded.drop (b.before.length + 1) = b.after := by simp [folded]
    rw [hdrop, scriptLines_eq_nil b.after_code]
  have hspread : scriptLines (b.list.drop (b.before.length + 1)) =
      b.lines.map Instruction.lineText := by
    have hdrop : b.list.drop (b.before.length + 1) = b.lines ++ b.after := by simp [list]
    rw [hdrop, scriptLines_append b.line_code b.after_code]
  rw [Moment.effect, Moment.effect, wholeHead_command, head_command]
  refine callScript_spreads hbelow ?_ ?_
  · simp only [Frame.scriptText, spread, hlist, hplace, place_of_le (Nat.le_refl _), hwhole,
      hspread]
    simp [text]
  · have hpast : Frame.pastScript { b.spread top with cursor := (b.spread top).cursor + 1 } =
        b.spread (Frame.pastScript { top with cursor := top.cursor + 1 }) := by
      simp only [Frame.pastScript, spread, hlist, hplace, place_of_le (Nat.le_refl _), hwhole,
        hspread, List.length_map, List.length_nil, Nat.add_zero, place_of_lt (Nat.lt_succ_self _)]
    rw [hpast]
    exact .running hlist

/-- The next commands of frames that correspond do the same. -/
theorem Spreads.effect {i : Instruction} (h : b.Spreads top top') (limit : UInt32)
    (hbelow : List.Forall₂ b.Spreads below below') (hnext : top.list[top.cursor]? = some i) :
    ∃ i', top'.list[top'.cursor]? = some i' ∧ b.ReadsAs i.command i'.command ∧
      b.EffectSpreads (Moment.effect limit top below w i)
        (Moment.effect limit top' below' w i') := by
  cases h with
  | other => exact ⟨i, hnext, .same _, (Spreads.other _).execute hbelow _⟩
  | running hlist =>
    rw [hlist] at hnext
    by_cases hplace : top.cursor = b.before.length
    · rw [hplace, getElem?_script.2] at hnext
      cases hnext
      refine ⟨b.head, ?_, ?_, script_spreads hlist hplace hbelow⟩
      · rw [spread, hplace]
        exact getElem?_script.1
      · rw [wholeHead_command, head_command]
        exact .script
    · refine ⟨i, (getElem?_place hplace).trans hnext, .same _, ?_⟩
      have hmoved : { b.spread top with cursor := (b.spread top).cursor + 1 } =
          b.spread { top with cursor := top.cursor + 1 } := by
        have hnextPlace : b.place (top.cursor + 1) = b.place top.cursor + 1 := by
          unfold place
          split <;> split <;> omega
        rw [spread, spread, hnextPlace]
      rw [Moment.effect, Moment.effect, hmoved]
      exact (Spreads.running (f := { top with cursor := top.cursor + 1 }) hlist).execute hbelow _

end

end ScriptBlock

end Overworld
