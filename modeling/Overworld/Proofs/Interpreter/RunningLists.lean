import Overworld.Proofs.Interpreter.Owners

/-!
# Running lists

A frame runs its own copy of a list. Of the live map a tick reads the id, for the switches, and
whether the owners of the frames are there, for the check at its beginning; only scripts look
further. So without scripts two maps that agree on that much make no difference to what runs,
however they differ in tiles, pages and other events.
-/

namespace Overworld

/-- A list without scripts. -/
def Instruction.Scriptless (list : List Instruction) : Prop :=
  ∀ i ∈ list, ∀ line, i.command ≠ .script line

/-- Neither a list that runs on a stack nor one that it can call has scripts. -/
structure FrameStack.Scriptless (frames : FrameStack) (tables : DataTables) : Prop where
  running : ∀ f ∈ frames, Instruction.Scriptless f.list
  common : ∀ c ∈ tables.commonEvents, Instruction.Scriptless c.list

/-- Two worlds that differ at most in their maps, and these not in their ids. -/
structure World.Alike (w w' : World) : Prop where
  id_eq : w'.map.id = w.map.id
  tables_eq : w'.tables = w.tables
  switches_eq : w'.switches = w.switches
  notices_eq : w'.notices = w.notices
  transfer_eq : w'.transfer = w.transfer

/-- Two effects that differ at most in the maps of their worlds. -/
structure Effect.Alike (e e' : Effect) : Prop where
  frames_eq : e'.frames = e.frames
  flow_eq : e'.flow = e.flow
  world : e.world.Alike e'.world

/-- Two ticks that differ at most in the maps of their worlds. -/
structure Tick.Alike (t t' : Tick) : Prop where
  result_eq : t'.result = t.result
  frames_eq : t'.frames = t.frames
  world : t.world.Alike t'.world

/-- Two maps with the same id that agree on the frames' owners: on which are there and not
erased. -/
structure FrameStack.OwnedAlike (frames : FrameStack) (map map' : FieldMap) : Prop where
  id_eq : map'.id = map.id
  holds_iff : ∀ f ∈ frames, ∀ event, f.source = .mapEvent map.id event →
    (map'.Holds event ↔ map.Holds event)

/-- Two conditions that agree on a list take the same first part of it. -/
private theorem takeWhile_congr {α : Type} {p q : α → Bool} {l : List α}
    (h : ∀ a ∈ l, p a = q a) : l.takeWhile p = l.takeWhile q := by
  induction l with
  | nil => rfl
  | cons a rest ih =>
    obtain ⟨ha, hrest⟩ := List.forall_mem_cons.mp h
    rw [List.takeWhile_cons, List.takeWhile_cons, ha, ih hrest]

section

variable {map map' : FieldMap} {frames : FrameStack}

/-- A frame passes the check of both maps or of neither. -/
theorem FrameStack.OwnedAlike.ownerPresent_eq (h : frames.OwnedAlike map map') {f : Frame}
    (hf : f ∈ frames) : f.ownerPresent map' = f.ownerPresent map := by
  rw [Bool.eq_iff_iff, Frame.ownerPresent_iff, Frame.ownerPresent_iff, h.id_eq]
  exact forall_congr' fun event => forall_congr' fun hsource => h.holds_iff f hf event hsource

/-- The checks of both maps leave the same stack. -/
theorem FrameStack.OwnedAlike.revalidate_eq (h : frames.OwnedAlike map map') :
    frames.revalidate map' = frames.revalidate map := by
  have hpresent : frames.reverse.takeWhile (Frame.ownerPresent map') =
      frames.reverse.takeWhile (Frame.ownerPresent map) :=
    takeWhile_congr fun f hf => h.ownerPresent_eq (List.mem_reverse.mp hf)
  have hrebound : Frame.rebound map' = Frame.rebound map := by
    funext f
    unfold Frame.rebound
    rw [h.id_eq]
  rw [FrameStack.revalidate, FrameStack.revalidate, hpresent, hrebound]

/-- Maps on which all owners are there agree on them. -/
theorem FrameStack.Anchored.ownedAlike (hid : map'.id = map.id) (h : frames.Anchored map)
    (h' : frames.Anchored map') : frames.OwnedAlike map map' where
  id_eq := hid
  holds_iff f hf event hsource :=
    ⟨fun _ => (h f hf _ event hsource).2, fun _ => (h' f hf _ event hsource).2⟩

/-- The check of a map changes no list. -/
theorem FrameStack.Scriptless.revalidate {tables : DataTables} (h : frames.Scriptless tables) :
    (frames.revalidate map).Scriptless tables := by
  refine ⟨fun f hf => ?_, h.common⟩
  simp only [FrameStack.revalidate, List.mem_reverse, List.mem_map] at hf
  obtain ⟨g, hg, rfl⟩ := hf
  have hlist : (g.rebound map).list = g.list := by
    unfold Frame.rebound
    split
    · split <;> rfl
    · rfl
  rw [hlist]
  exact h.running g (List.mem_reverse.mp ((List.takeWhile_sublist _).mem hg))

end

section

variable {limit : UInt32} {top : Frame} {below : FrameStack} {w w' : World} {c : Command}

/-- Setting a switch reads no more of the map than its id. -/
theorem World.Alike.assignSwitch (h : w.Alike w') (f : Frame)
    (assignment : Option (String × Bool)) :
    (f.assignSwitch assignment w).Alike (f.assignSwitch assignment w') := by
  obtain ⟨hid, htables, hswitches, hnotices, htransfer⟩ := h
  have hrefresh : w.requestRefresh.Alike w'.requestRefresh :=
    ⟨hid, htables, hswitches, hnotices, htransfer⟩
  unfold Frame.assignSwitch
  split
  · split
    · exact hrefresh
    · rename_i switch value _
      have hkey : w'.switchKey (some f.event) switch = w.switchKey (some f.event) switch := by
        rw [World.switchKey, hid, World.switchKey]
      refine ⟨hid, htables, ?_, ?_, htransfer⟩
      · simp only [World.setSwitch, World.requestRefresh, World.notify, hkey, hswitches]
      · simp only [World.setSwitch, World.requestRefresh, World.notify, hkey, hnotices]
  · exact hrefresh

/-- Calling a common event reads nothing of the world. -/
theorem World.Alike.callCommon (h : w.Alike w') (event : CommonEvent) :
    (top.callCommon limit below event w).Alike (top.callCommon limit below event w') := by
  unfold Frame.callCommon
  simp only
  split
  · exact ⟨rfl, rfl, h⟩
  · exact ⟨rfl, rfl, h⟩

/-- A command that is no script reads no more of the map than its id. -/
theorem World.Alike.execute (h : w.Alike w') (hscript : ∀ line, c ≠ .script line) :
    (c.execute limit top below w).Alike (c.execute limit top below w') := by
  cases c with
  | script line => exact absurd rfl (hscript line)
  | finish | comment | wait | exit | scriptLine | unsupported => exact ⟨rfl, rfl, h⟩
  | callCommon id =>
    simp only [Command.execute, h.tables_eq]
    cases id.bind w.tables.commonEvent? with
    | none => exact ⟨rfl, rfl, h⟩
    | some event => exact h.callCommon event
  | setSelfSwitch assignment => exact ⟨rfl, rfl, h.assignSwitch top assignment⟩
  | transfer request =>
    cases request with
    | none => exact ⟨rfl, rfl, h⟩
    | some request =>
      exact ⟨rfl, rfl, ⟨h.id_eq, h.tables_eq, h.switches_eq, h.notices_eq, rfl⟩⟩

/-- A command that is no script leaves a stack without scripts. -/
theorem FrameStack.Scriptless.execute (h : FrameStack.Scriptless (top :: below) w.tables)
    (hscript : ∀ line, c ≠ .script line) :
    (c.execute limit top below w).frames.Scriptless (c.execute limit top below w).world.tables := by
  obtain ⟨htop, hbelow⟩ := List.forall_mem_cons.mp h.running
  cases c with
  | script line => exact absurd rfl (hscript line)
  | comment | scriptLine | unsupported => exact h
  | wait => exact ⟨List.forall_mem_cons.mpr ⟨htop, hbelow⟩, h.common⟩
  | exit => exact ⟨hbelow, h.common⟩
  | finish outermost =>
    cases outermost
    · exact h
    · exact ⟨hbelow, h.common⟩
  | transfer request => cases request <;> exact h
  | setSelfSwitch assignment =>
    have htables : (top.assignSwitch assignment w).tables = w.tables := by
      unfold Frame.assignSwitch
      split
      · split <;> rfl
      · rfl
    rw [← htables] at h
    exact h
  | callCommon id =>
    simp only [Command.execute]
    split
    · exact h
    · rename_i event hevent
      obtain ⟨id, -, hcommon⟩ := Option.bind_eq_some_iff.mp hevent
      have hlist : Instruction.Scriptless event.list :=
        h.common event (List.mem_of_find?_eq_some hcommon)
      unfold Frame.callCommon
      simp only
      split
      · exact h
      · exact ⟨List.forall_mem_cons.mpr ⟨hlist, h.running⟩, h.common⟩

end

namespace Moment

variable {limit : UInt32} {m m₁ m' : Moment} {t : Tick}

/-- Two moments that differ at most in the maps of their worlds. -/
structure Alike (m m' : Moment) : Prop where
  left_eq : m'.left = m.left
  frames_eq : m'.frames = m.frames
  world : m.world.Alike m'.world

/-- A moment at which nothing that runs, or that can be called, is a script. -/
def Scriptless (m : Moment) : Prop := m.frames.Scriptless m.world.tables

/-- What the next command leads to is the same on both maps. -/
theorem effect_alike (limit : UInt32) {top : Frame} {below : FrameStack} {w w' : World}
    {i : Instruction} (h : w.Alike w') (hscript : FrameStack.Scriptless (top :: below) w.tables)
    (hnext : top.list[top.cursor]? = some i) :
    (effect limit top below w i).Alike (effect limit top below w' i) :=
  h.execute (hscript.running top List.mem_cons_self i (List.mem_of_getElem? hnext))

/-- What the next command leaves is without scripts. -/
theorem effect_scriptless {top : Frame} {below : FrameStack} {w : World} {i : Instruction}
    (h : FrameStack.Scriptless (top :: below) w.tables) (hnext : top.list[top.cursor]? = some i) :
    (effect limit top below w i).frames.Scriptless (effect limit top below w i).world.tables := by
  obtain ⟨htop, hbelow⟩ := List.forall_mem_cons.mp h.running
  have hmoved : FrameStack.Scriptless ({ top with cursor := top.cursor + 1 } :: below) w.tables :=
    ⟨List.forall_mem_cons.mpr ⟨htop, hbelow⟩, h.common⟩
  exact hmoved.execute (htop i (List.mem_of_getElem? hnext))

/-- A turn of the loop leaves a stack without scripts. -/
theorem Turns.scriptless (hturn : m.Turns limit m₁) (h : m.Scriptless) : m₁.Scriptless := by
  cases hturn with
  | drop => exact ⟨(List.forall_mem_cons.mp h.running).2, h.common⟩
  | execute _ hnext => exact effect_scriptless h hnext

/-- A turn of the loop is taken on both maps. -/
theorem Turns.alike (hturn : m.Turns limit m₁) (hscript : m.Scriptless) (h : m.Alike m') :
    ∃ m₁', m'.Turns limit m₁' ∧ m₁.Alike m₁' := by
  obtain ⟨left', frames', w'⟩ := m'
  obtain ⟨rfl, rfl, hworld⟩ := h
  cases hturn with
  | drop hwait hdone => exact ⟨_, .drop hwait hdone, rfl, rfl, hworld⟩
  | execute hwait hnext hflow =>
    have heffect := effect_alike limit hworld hscript hnext
    exact ⟨_, .execute hwait hnext (heffect.flow_eq.trans hflow), rfl, heffect.frames_eq,
      heffect.world⟩

/-- All turns of the loop are taken on both maps. -/
theorem Leads.alike (hleads : m.Leads limit m₁) (hscript : m.Scriptless) (h : m.Alike m') :
    ∃ m₁', m'.Leads limit m₁' ∧ m₁.Alike m₁' ∧ m₁.Scriptless := by
  induction hleads with
  | refl => exact ⟨m', .refl, h, hscript⟩
  | tail _ hturn ih =>
    obtain ⟨m₂, hleads', halike, hscript'⟩ := ih
    obtain ⟨m₃, hturn', halike'⟩ := hturn.alike hscript' halike
    exact ⟨m₃, hleads'.tail hturn', halike', hturn.scriptless hscript'⟩

/-- The last turn of the loop is taken on both maps. -/
theorem Ends.alike (hends : m.Ends limit t) (hscript : m.Scriptless) (h : m.Alike m') :
    ∃ t', m'.Ends limit t' ∧ t.Alike t' := by
  obtain ⟨left', frames', w'⟩ := m'
  obtain ⟨rfl, rfl, hworld⟩ := h
  cases hends with
  | finished => exact ⟨_, .finished, rfl, rfl, hworld⟩
  | waiting hwait => exact ⟨_, .waiting hwait, rfl, rfl, hworld⟩
  | spent hwait => exact ⟨_, .spent hwait, rfl, rfl, hworld⟩
  | transfers hwait hnext hflow =>
    have heffect := effect_alike limit hworld hscript hnext
    exact ⟨_, .transfers hwait hnext (heffect.flow_eq.trans hflow), rfl, heffect.frames_eq,
      heffect.world⟩
  | fails hwait hnext hflow =>
    have heffect := effect_alike limit hworld hscript hnext
    exact ⟨_, .fails hwait hnext (heffect.flow_eq.trans hflow), rfl, heffect.frames_eq,
      heffect.world⟩

end Moment

namespace Interpreter

/-- Two worlds in which an interpreter does the same: nothing that it runs or can call is a script,
and the worlds differ at most in their maps, which agree on the owners of the frames. -/
structure Undisturbed (i : Interpreter) (w w' : World) : Prop where
  scriptless : i.frames.Scriptless w.tables
  world : w.Alike w'
  owned : i.frames.OwnedAlike w.map w'.map

variable {i : Interpreter} {w w' : World}

/-- A tick leaves a stack without scripts. -/
theorem tick_scriptless (h : i.frames.Scriptless w.tables) :
    (i.tick w).frames.Scriptless (i.tick w).world.tables := by
  refine tick_induction (P := fun frames w => frames.Scriptless w.tables) h.revalidate ?_ ?_ ?_
  · intro top below w h
    exact ⟨(List.forall_mem_cons.mp h.running).2, h.common⟩
  · intro top below w instruction hnext h
    exact Moment.effect_scriptless h hnext
  · intro top below w h
    obtain ⟨htop, hbelow⟩ := List.forall_mem_cons.mp h.running
    exact ⟨List.forall_mem_cons.mpr ⟨htop, hbelow⟩, h.common⟩

/-- A tick does the same in both worlds. -/
theorem Undisturbed.tick_alike (h : i.Undisturbed w w') : (i.tick w).Alike (i.tick w') := by
  by_cases hempty : i.frames = []
  · rw [tick_idle w hempty, tick_idle w' hempty]
    exact ⟨rfl, rfl, h.world⟩
  · have hopening : (i.opening w).Alike (i.opening w') := ⟨rfl, h.owned.revalidate_eq, h.world⟩
    obtain ⟨m, hleads, hends⟩ := Moment.exists_ends i.maxDepth (i.opening w)
    obtain ⟨m', hleads', halike, hscript⟩ := hleads.alike h.scriptless.revalidate hopening
    obtain ⟨t', hends', htick⟩ := hends.alike hscript halike
    rw [tick_eq_run w hempty, tick_eq_run w' hempty, hleads'.run_eq, hends'.run_eq]
    exact htick

/-- After a tick the maps of both worlds agree on the owners: those that run on are there. -/
theorem Undisturbed.tick_owned (h : i.Undisturbed w w') :
    (i.tick w).frames.OwnedAlike (i.tick w).world.map (i.tick w').world.map := by
  have htick := h.tick_alike
  by_cases hempty : i.frames = []
  · refine ⟨htick.world.id_eq, fun f hf => ?_⟩
    rw [tick_idle w hempty] at hf
    exact absurd hf List.not_mem_nil
  · have hanchored := tick_anchored w' hempty
    rw [htick.frames_eq] at hanchored
    exact (tick_anchored w hempty).ownedAlike htick.world.id_eq hanchored

/-- An update does the same in both worlds, and the next one will. -/
theorem Undisturbed.update (h : i.Undisturbed w w') :
    (i.update w').1 = (i.update w).1 ∧ (i.update w').2.1 = (i.update w).2.1 ∧
      (i.update w).2.1.Undisturbed (i.update w).2.2 (i.update w').2.2 := by
  have htick := h.tick_alike
  rw [update_eq, update_eq]
  exact ⟨htick.result_eq, congrArg (fun frames => { i with frames }) htick.frames_eq,
    tick_scriptless h.scriptless, htick.world, h.tick_owned⟩

/-- Updates, one after the other, do the same in both worlds. -/
theorem Undisturbed.after (h : i.Undisturbed w w') (n : Nat) :
    (i.after w' n).1 = (i.after w n).1 ∧
      (i.after w n).1.Undisturbed (i.after w n).2 (i.after w' n).2 := by
  induction n with
  | zero => exact ⟨rfl, h⟩
  | succ n ih =>
    obtain ⟨hsame, hundisturbed⟩ := ih
    obtain ⟨-, hnext, hlater⟩ := hundisturbed.update
    rw [Interpreter.after, Interpreter.after, hsame]
    exact ⟨hnext, hlater⟩

/-- **Running lists are not disturbed.** Take two maps with the same id that agree on which owners
of frames are there and not erased, and are otherwise any. A stack without scripts that can call
none does the same on both, whatever its ticks lead to: after any number of them the interpreters
are the same and their worlds differ in the maps alone, and the next tick has the same outcome or
the same fault. -/
theorem running_lists_undisturbed {map : FieldMap} (hscript : i.frames.Scriptless w.tables)
    (howned : i.frames.OwnedAlike w.map map) (n : Nat) :
    (i.after { w with map } n).1 = (i.after w n).1 ∧
      (i.after w n).2.Alike (i.after { w with map } n).2 ∧
      ((i.after { w with map } n).1.update (i.after { w with map } n).2).1 =
        ((i.after w n).1.update (i.after w n).2).1 := by
  have hbegin : i.Undisturbed w { w with map } :=
    ⟨hscript, ⟨howned.id_eq, rfl, rfl, rfl, rfl⟩, howned⟩
  obtain ⟨hsame, hundisturbed⟩ := hbegin.after n
  obtain ⟨hresult, -, -⟩ := hundisturbed.update
  rw [hsame]
  exact ⟨rfl, hundisturbed.world, hresult⟩

/-- A list that calls a common event, sets a switch and asks for a transfer. -/
private def gateList : List Instruction :=
  [{ code := 117, parameters := [.int 1] }, { code := 123, parameters := [.str "A", .int 0] },
    { code := 201, parameters := [.int 0, .int 5, .int 2, .int 2] }]

/-- The common event sets a switch and waits. -/
private def gateCommon : CommonEvent :=
  { id := 1
    list :=
      [{ code := 123, parameters := [.str "B", .int 0] }, { code := 106, parameters := [.int 1] }] }

/-- A gate, and an event that has been erased while it ran on top of the gate's list. -/
private def gateMap : FieldMap :=
  { id := 3
    events := .ofList [.ofList 1 "gate" gateList, (MapEvent.ofList 2 "guard" gateList).erase] }

/-- The map after a reload: larger, with the gate elsewhere and doing nothing, and without the other
event. -/
private def rebuiltMap : FieldMap :=
  { id := 3, ground := .ofList 2 1 [], needRefresh := true
    events := .ofList [(MapEvent.ofList 1 "ruin" []).place 4 4] }

/-- The interpreter while both events run. -/
private def gate : Interpreter :=
  { maxDepth := 9, commandsPerTick := 5
    frames :=
      [{ depth := 1, source := .mapEvent 3 2, event := 2, list := gateList },
        { depth := 0, source := .mapEvent 3 1, event := 1, list := gateList }] }

/-- The world of the gate. -/
private def gateWorld : World := { map := gateMap, tables := { commonEvents := [gateCommon] } }

/-- The world of the gate after the reload. -/
private def rebuiltWorld : World := { gateWorld with map := rebuiltMap }

/-- On the rebuilt map the gate goes on as on its own: in the first tick the common event sets its
switch and waits, and in the second one the gate sets its own and asks for the transfer. -/
theorem running_lists_undisturbed_gate :
    gate.frames.Scriptless gateWorld.tables ∧ gate.frames.OwnedAlike gateWorld.map rebuiltMap ∧
      (gate.after rebuiltWorld 1).1.frames.map (fun f => (f.source, f.cursor)) =
        [(.common 1, 2), (.mapEvent 3 1, 1)] ∧
      (gate.after rebuiltWorld 1).2.switches.entries = [(⟨3, some 1, "B"⟩, true)] ∧
      ((gate.after rebuiltWorld 1).1.update (gate.after rebuiltWorld 1).2).1 = .ok .yielded := by
  have hgate : Instruction.Scriptless gateList := by
    simp [Instruction.Scriptless, gateList, Instruction.command]
  have hcommon : Instruction.Scriptless gateCommon.list := by
    simp [Instruction.Scriptless, gateCommon, Instruction.command]
  have hscript : gate.frames.Scriptless gateWorld.tables :=
    ⟨by simp [gate, hgate], by simp [gateWorld, hcommon]⟩
  have howned : gate.frames.OwnedAlike gateWorld.map rebuiltMap := by
    refine ⟨rfl, fun f hf event hsource => ?_⟩
    rcases List.mem_pair.mp hf with rfl | rfl
    · cases hsource
      simp [FieldMap.Holds, rebuiltMap, gateWorld, gateMap, Roster.get?]
      decide
    · cases hsource
      exact ⟨fun _ => ⟨_, rfl, rfl⟩, fun _ => ⟨_, rfl, rfl⟩⟩
  obtain ⟨hsame, hworld, hresult⟩ := running_lists_undisturbed hscript howned 1
  refine ⟨hscript, howned, ?_, ?_, ?_⟩
  · rw [rebuiltWorld, hsame]
    rfl
  · rw [rebuiltWorld, hworld.switches_eq]
    rfl
  · rw [rebuiltWorld, hresult]
    rfl

end Interpreter

end Overworld
