import Overworld.Proofs.Interpreter.Calls
import Overworld.Proofs.Interpreter.Loop

/-!
# Nesting

Frames come upon a stack by starts and calls of the host, by common events and by scripts. They
leave it at the end of a list and when the map is checked, which can cut a stack anywhere. However
a host mixes all this, no frame leaves its list, and only a frame at the bottom can be deeper than
the limit. Every frame is one level deeper than the one it stands on, unless the limit is the
greatest word: above that the levels start again.
-/

namespace Overworld

/-- The depth of the frame on top of a stack that starts at the depth `base`. -/
def FrameStack.depthAbove (base : UInt32) (frames : FrameStack) : UInt32 :=
  (frames.head?.map (·.depth)).getD base

/-- A stack as starts and calls build it. A frame is started at the depth `base` or called from what
is below, within the limit; an interpreter that runs nothing counts as a caller at the depth
`base`. -/
inductive FrameStack.Nested (base limit : UInt32) : FrameStack → Prop
  | idle : Nested base limit []
  | started {f : Frame} (hdepth : f.depth = base) (hwithin : f.Within) : Nested base limit [f]
  | called {f : Frame} {below : FrameStack} (hbelow : Nested base limit below)
      (hdepth : f.depth = below.depthAbove base + 1) (hlimit : f.depth ≤ limit)
      (hwithin : f.Within) : Nested base limit (f :: below)

/-- A frame that a call puts on a stack is one level deeper than the caller, within the limit, and
at the beginning of its list. -/
theorem CallTarget.childFrame_depth {map : FieldMap} {target : CallTarget} {depth limit : UInt32}
    {child : Frame} (h : target.childFrame map depth limit = .ok (some child)) :
    child.depth = depth + 1 ∧ depth + 1 ≤ limit ∧ child.Within := by
  obtain ⟨e, -, -, hlimit, hchild⟩ := CallTarget.childFrame_some h
  obtain ⟨list, -, rfl⟩ := Option.map_eq_some_iff.mp hchild
  exact ⟨rfl, hlimit, Nat.zero_le _⟩

/-- A child of a running frame is one level deeper, within the limit, and at the beginning of its
list. -/
theorem Frame.Calls.depth_eq {limit : UInt32} {w : World} {top child : Frame}
    (h : top.Calls limit w child) :
    child.depth = top.depth + 1 ∧ top.depth + 1 ≤ limit ∧ child.Within := by
  cases h with
  | common _ hdepth => exact ⟨rfl, hdepth, Nat.zero_le _⟩
  | event hchild => exact CallTarget.childFrame_depth hchild

/-- The check of the map keeps frames from the bottom upwards, and binds them again. -/
theorem FrameStack.revalidate_suffix (frames : FrameStack) (map : FieldMap) :
    ∃ kept : FrameStack, kept <:+ frames ∧ frames.revalidate map = kept.map (Frame.rebound map) := by
  refine ⟨(frames.reverse.takeWhile (Frame.ownerPresent map)).reverse, ?_, ?_⟩
  · rw [← List.reverse_prefix, List.reverse_reverse]
    exact List.takeWhile_prefix _
  · rw [FrameStack.revalidate, List.map_reverse]

/-- Binding a frame again changes nothing of where it is in its list. -/
theorem Frame.rebound_goesOn (map : FieldMap) (f : Frame) :
    (f.rebound map).depth = f.depth ∧ (f.Within → (f.rebound map).Within) := by
  unfold Frame.rebound
  split
  · split
    · exact ⟨rfl, id⟩
    · exact ⟨rfl, id⟩
  · exact ⟨rfl, id⟩

/-- The frame at a height, counted from the bottom, stands on as many frames. -/
theorem FrameStack.suffix_at {frames : FrameStack} {n : Nat} {f : Frame}
    (hf : frames.reverse[n]? = some f) : ∃ below, f :: below <:+ frames ∧ below.length = n := by
  have hn : n < frames.reverse.length := (List.getElem?_eq_some_iff.mp hf).1
  refine ⟨(frames.reverse.take n).reverse, ?_, ?_⟩
  · have hprefix := List.take_prefix (n + 1) frames.reverse
    rw [List.take_add_one, hf] at hprefix
    rw [← List.reverse_prefix, List.reverse_cons, List.reverse_reverse]
    exact hprefix
  · rw [List.length_reverse, List.length_take, Nat.min_eq_left (Nat.le_of_lt hn)]

namespace FrameStack.Nested

variable {base limit : UInt32} {f top : Frame} {below frames : FrameStack}

/-- A nested stack stays nested when the frame on top leaves it. -/
theorem tail (h : Nested base limit (f :: below)) : Nested base limit below := by
  cases h with
  | started => exact .idle
  | called hbelow => exact hbelow

/-- The frame on top is within its list. -/
theorem within (h : Nested base limit (f :: below)) : f.Within := by
  cases h with
  | started _ hwithin | called _ _ _ hwithin => exact hwithin

/-- The frame on top can be replaced by one of the same depth. -/
theorem replace {f' : Frame} (h : Nested base limit (f :: below)) (hdepth : f'.depth = f.depth)
    (hwithin : f'.Within) : Nested base limit (f' :: below) := by
  cases h with
  | started hf => exact .started (hdepth.trans hf) hwithin
  | called hbelow hf hlimit =>
    exact .called hbelow (hdepth.trans hf) (hdepth.symm ▸ hlimit) hwithin

/-- The lower part of a nested stack is nested. -/
theorem suffix {kept : FrameStack} (h : Nested base limit frames) (hkept : kept <:+ frames) :
    Nested base limit kept := by
  obtain ⟨upper, rfl⟩ := hkept
  induction upper with
  | nil => exact h
  | cons f upper ih => exact ih h.tail

/-- A nested stack stays nested when its frames are bound again. -/
theorem rebound (h : Nested base limit frames) (map : FieldMap) :
    Nested base limit (frames.map (Frame.rebound map)) := by
  induction h with
  | idle => exact .idle
  | @started f hdepth hwithin =>
    obtain ⟨hsame, hkeeps⟩ := f.rebound_goesOn map
    exact .started (hsame.trans hdepth) (hkeeps hwithin)
  | @called f below _ hdepth hlimit hwithin ih =>
    obtain ⟨hsame, hkeeps⟩ := f.rebound_goesOn map
    have hbelow : depthAbove base (below.map (Frame.rebound map)) = below.depthAbove base := by
      cases below with
      | nil => rfl
      | cons g below => exact (g.rebound_goesOn map).1
    refine .called ih ?_ (hsame.symm ▸ hlimit) (hkeeps hwithin)
    rw [hsame, hbelow, hdepth]

/-- A nested stack stays nested when the map is checked. -/
theorem revalidate (h : Nested base limit frames) (map : FieldMap) :
    Nested base limit (frames.revalidate map) := by
  obtain ⟨kept, hkept, heq⟩ := frames.revalidate_suffix map
  rw [heq]
  exact (h.suffix hkept).rebound map

/-- A command leaves a nested stack. -/
theorem leaves {w : World} (h : Nested base limit (top :: below))
    (hleaves : top.Leaves limit w below frames) : Nested base limit frames := by
  cases hleaves with
  | ended => exact h.tail
  | goesOn hon => exact h.replace hon.depth_eq (hon.within h.within)
  | @called top' child hon hcall =>
    obtain ⟨hdepth, hlimit, hwithin⟩ := hcall.depth_eq
    have hchild : child.depth = depthAbove base (top' :: below) + 1 := by
      rw [hdepth, ← hon.depth_eq]
      rfl
    exact .called (h.replace hon.depth_eq (hon.within h.within)) hchild (hdepth ▸ hlimit) hwithin

/-- Only a frame at the bottom and at the base is not bounded by the limit. -/
theorem le_limit (h : Nested base limit (f :: below)) :
    f.depth ≤ limit ∨ (below = [] ∧ f.depth = base) := by
  cases h with
  | started hdepth => exact .inr ⟨rfl, hdepth⟩
  | called _ _ hlimit => exact .inl hlimit

/-- The frame at the bottom is at the base or one level above it. -/
theorem bottom_depth {bottom : Frame} (h : Nested base limit frames)
    (hbottom : frames.getLast? = some bottom) :
    bottom.depth = base ∨ bottom.depth = base + 1 := by
  have hlast : [bottom] <:+ frames := List.singleton_suffix_iff_getLast?_eq_some.mpr hbottom
  cases h.suffix hlast with
  | started hdepth => exact .inl hdepth
  | called _ hdepth => exact .inr hdepth

/-- As long as the levels above the base and above the limit are words, so is the level above any
frame. -/
theorem depthAbove_add_one (h : Nested base limit frames) (hbase : base.toNat + 1 < UInt32.size)
    (hwords : limit.toNat + 1 < UInt32.size) :
    (frames.depthAbove base + 1).toNat = (frames.depthAbove base).toNat + 1 := by
  apply toNat_add_one
  cases h with
  | idle => exact hbase
  | started hdepth => exact hdepth ▸ hbase
  | called _ _ hlimit => exact Nat.lt_of_le_of_lt (Nat.succ_le_succ hlimit) hwords

/-- Then the depth of a frame counts the frames below it, from the depth of the one at the
bottom. -/
theorem depth_eq {bottom : Frame} (h : Nested base limit (f :: below))
    (hbase : base.toNat + 1 < UInt32.size) (hwords : limit.toNat + 1 < UInt32.size)
    (hbottom : (f :: below).getLast? = some bottom) :
    f.depth.toNat = bottom.depth.toNat + below.length := by
  induction below generalizing f with
  | nil =>
    cases hbottom
    rfl
  | cons caller below ih =>
    have hcaller := ih h.tail hbottom
    cases h with
    | called hbelow hdepth =>
      have hlevel := hbelow.depthAbove_add_one hbase hwords
      rw [← hdepth] at hlevel
      rw [hlevel, List.length_cons, ← Nat.add_assoc, ← hcaller]
      rfl

/-- Then a nested stack holds no more frames than fit between its base and the limit, and one
more. -/
theorem length_le (h : Nested base limit frames) (hbase : base.toNat + 1 < UInt32.size)
    (hwords : limit.toNat + 1 < UInt32.size) :
    frames.length ≤ max 1 (limit.toNat + 1 - base.toNat) := by
  cases frames with
  | nil => exact Nat.zero_le _
  | cons f below =>
    obtain ⟨bottom, hbottom⟩ := Option.isSome_iff_exists.mp (List.getLast?_isSome.mpr
      (List.cons_ne_nil f below))
    have hcount := h.depth_eq hbase hwords hbottom
    have hlow : base.toNat ≤ bottom.depth.toNat := by
      rcases h.bottom_depth hbottom with hdepth | hdepth
      · exact Nat.le_of_eq (congrArg UInt32.toNat hdepth.symm)
      · rw [hdepth, toNat_add_one hbase]
        exact Nat.le_succ _
    rcases h.le_limit with hlimit | ⟨rfl, -⟩
    · have hlimit := UInt32.le_iff_toNat_le.mp hlimit
      rw [List.length_cons]
      omega
    · exact Nat.le_max_left _ _

end FrameStack.Nested

/-- What a host can ask of an interpreter. -/
inductive HostCall where
  | setupEvent (map : FieldMap) (event : UInt32)
  | setupList (list : List Instruction) (event : UInt32)
  /-- A call of an event by its id or by its name. -/
  | call (map : FieldMap) (target : CallTarget)
  | clear
  /-- A tick in some world. -/
  | update (w : World)

namespace Interpreter

/-- The interpreter after a call of its host, whatever the call has answered. -/
def perform (i : Interpreter) : HostCall → Interpreter
  | .setupEvent map event => (i.setupEvent map event).2
  | .setupList list event => (i.setupList list event).2
  | .call map target => (i.call map target).2
  | .clear => i.clear
  | .update w => (i.update w).2.1

/-- The interpreter after some calls of its host, one after the other. -/
def performAll (i : Interpreter) (calls : List HostCall) : Interpreter := calls.foldl perform i

/-- The stack of an interpreter is nested between its base and its limit. -/
def Nested (i : Interpreter) : Prop := i.frames.Nested i.baseDepth i.maxDepth

variable {i : Interpreter}

/-- A tick keeps a stack nested. -/
theorem Nested.tick (h : i.Nested) (w : World) :
    FrameStack.Nested i.baseDepth i.maxDepth (i.tick w).frames := by
  refine tick_induction (P := fun frames _ => frames.Nested i.baseDepth i.maxDepth)
    (h.revalidate w.map) (fun htop => htop.tail) ?_ (fun htop => htop.replace rfl htop.within)
  intro top below w instruction hnext htop
  have hlt : top.cursor < top.list.length := (List.getElem?_eq_some_iff.mp hnext).1
  have hmoved : FrameStack.Nested i.baseDepth i.maxDepth
      ({ top with cursor := top.cursor + 1 } :: below) := htop.replace rfl hlt
  exact hmoved.leaves (Command.execute_leaves ..)

/-- No call of a host changes the bounds of an interpreter, and every one keeps its stack nested. -/
theorem Nested.perform (h : i.Nested) (call : HostCall) :
    (i.perform call).baseDepth = i.baseDepth ∧ (i.perform call).maxDepth = i.maxDepth ∧
      (i.perform call).Nested := by
  cases call with
  | setupEvent map event =>
    simp only [Interpreter.perform, setupEvent]
    split
    · exact ⟨rfl, rfl, h⟩
    · split
      · rename_i frame hframe
        obtain ⟨e, -, hframe⟩ := Option.bind_eq_some_iff.mp hframe
        obtain ⟨list, -, rfl⟩ := Option.map_eq_some_iff.mp hframe
        exact ⟨rfl, rfl, .started rfl (Nat.zero_le _)⟩
      · exact ⟨rfl, rfl, h⟩
  | setupList list event =>
    simp only [Interpreter.perform, setupList]
    split
    · exact ⟨rfl, rfl, h⟩
    · exact ⟨rfl, rfl, .started rfl (Nat.zero_le _)⟩
  | call map target =>
    simp only [Interpreter.perform, Interpreter.call]
    split
    · exact ⟨rfl, rfl, h⟩
    · exact ⟨rfl, rfl, h⟩
    · rename_i child hchild
      obtain ⟨hdepth, hlimit, hwithin⟩ := CallTarget.childFrame_depth hchild
      exact ⟨rfl, rfl, .called h hdepth (hdepth.symm ▸ hlimit) hwithin⟩
  | clear => exact ⟨rfl, rfl, .idle⟩
  | update w =>
    rw [Interpreter.perform, update_eq]
    exact ⟨rfl, rfl, h.tick w⟩

/-- Calls of a host, one after the other, keep a stack nested. -/
theorem Nested.performAll (h : i.Nested) (calls : List HostCall) :
    FrameStack.Nested i.baseDepth i.maxDepth (i.performAll calls).frames := by
  induction calls generalizing i with
  | nil => exact h
  | cons call calls ih =>
    obtain ⟨hbase, hlimit, hnested⟩ := h.perform call
    have hrest := ih hnested
    rw [hbase, hlimit] at hrest
    exact hrest

/-- A common event that calls itself. -/
private def spiralStairs : World :=
  let climb : List Instruction := [{ code := 117, parameters := [.int 1] }]
  { map := {}, tables := { commonEvents := [{ id := 1, list := climb }] } }

end Interpreter

end Overworld
