import Overworld.Proofs.Interpreter.Calls
import Overworld.Proofs.Interpreter.Effects
import Overworld.Script.Subset

/-!
# What comes of a script

A script asks the field for things in any order and number, and may fail in between. What it has
written and logged stays, in the order in which it did so. Of its calls the last one that succeeded
counts, unless the script has failed; a call that was too deep counts above all, even if the script
has caught its failure.
-/

namespace Overworld

open Script (Request)

/-- The self switch that a request writes on a map, and the value that it writes. A name that no
event has names a switch of no event. -/
def Script.Request.write? (map : FieldMap) (r : Request) : Option (SwitchKey × Bool) :=
  match r.deed with
  | .write name switch value =>
    some ({ map := map.id, event := (map.events.named? name).map (·.id), switch }, value)
  | _ => none

/-- What the host is told of a request that is made for an event. -/
def Script.Request.notice? (map : FieldMap) (event : UInt32) (r : Request) : Option Notice :=
  match r.deed with
  | .log text => some (.scriptLog event text)
  | _ => (r.write? map).map fun written => .selfSwitchChanged written.1 written.2

/-- The target of a call that has returned true. -/
def Script.Request.called? (r : Request) : Option CallTarget :=
  match r.deed, r.answer with
  | .call target, .ok (.bool true) => some target
  | _, _ => none

/-- A call of something that can be run. -/
def Script.Request.CallsExecutable (map : FieldMap) (r : Request) : Prop :=
  ∃ target, r.deed = .call target ∧ target.canCall map = true

/-- What requests that are made for an event make of a world: every write and every log line is
kept, in their order, and nothing else happens. -/
structure World.Heeds (event : UInt32) (w : World) (requests : List Request) (w' : World) :
    Prop where
  switches_eq : w'.switches = (requests.filterMap (Request.write? w.map)).foldl
    (fun switches written => switches.set written.1 written.2) w.switches
  notices_eq : w'.notices = w.notices ++ requests.filterMap (Request.notice? w.map event)
  map_eq : w'.map = { w.map with
    needRefresh := w.map.needRefresh || requests.any fun r => (r.write? w.map).isSome }
  tables_eq : w'.tables = w.tables
  transfer_eq : w'.transfer = w.transfer

section

variable {map map' : FieldMap} {event : UInt32} {w w₁ w' : World}

/-- What a request writes does not depend on whether the map is to be refreshed. -/
theorem Script.Request.write?_congr (h : map.AgreesWith map') :
    Request.write? map' = Request.write? map := by
  unfold FieldMap.AgreesWith at h
  rw [h]
  rfl

/-- Nor does what the host is told. -/
theorem Script.Request.notice?_congr (h : map.AgreesWith map') :
    Request.notice? map' event = Request.notice? map event := by
  unfold FieldMap.AgreesWith at h
  rw [h]
  rfl

/-- Requests change nothing of a map but whether it is to be refreshed. -/
theorem World.Heeds.map_agrees {requests : List Request} (h : w.Heeds event requests w') :
    w.map.AgreesWith w'.map := by
  unfold FieldMap.AgreesWith
  rw [h.map_eq]

/-- Without requests nothing happens. -/
theorem World.Heeds.refl (event : UInt32) (w : World) : w.Heeds event [] w where
  switches_eq := rfl
  notices_eq := (List.append_nil _).symm
  map_eq := by simp
  tables_eq := rfl
  transfer_eq := rfl

/-- Requests are heeded one after the other. -/
theorem World.Heeds.trans {requests requests' : List Request} (h : w.Heeds event requests w₁)
    (h' : w₁.Heeds event requests' w') : w.Heeds event (requests ++ requests') w' := by
  have hwrite := Request.write?_congr h.map_agrees
  have hnotice : Request.notice? w₁.map event = Request.notice? w.map event :=
    Request.notice?_congr h.map_agrees
  constructor
  · rw [h'.switches_eq, h.switches_eq, hwrite, List.filterMap_append, List.foldl_append]
  · rw [h'.notices_eq, h.notices_eq, hnotice, List.filterMap_append, List.append_assoc]
  · rw [h'.map_eq, hwrite, h.map_eq, List.any_append, Bool.or_assoc]
  · exact h'.tables_eq.trans h.tables_eq
  · exact h'.transfer_eq.trans h.transfer_eq

/-- A request is heeded. -/
theorem ScriptState.Serves.heeds {caller : ScriptCaller} {s s' : ScriptState} {r : Request}
    (h : ScriptState.Serves caller s r.deed r.answer s') :
    s.world.Heeds caller.event [r] s'.world := by
  generalize hdeed : r.deed = deed at h
  generalize r.answer = answer at h
  cases h with
  | called | notCalled | tooDeep | queried =>
    constructor <;> simp [Request.write?, Request.notice?, hdeed]
  | wrote name switch value =>
    constructor <;> simp [Request.write?, Request.notice?, hdeed, World.setSwitchOf,
      World.setSwitch, World.requestRefresh, World.notify, World.switchKey, World.eventNamed?]
  | logged text =>
    constructor <;> simp [Request.write?, Request.notice?, hdeed, World.notify]

end

section

variable {caller : ScriptCaller} {s s' : ScriptState}

/-- What the calls among some requests have left behind: the frame of the last one that has returned
true, and the fault of those that were too deep. -/
structure ScriptState.Keeps (caller : ScriptCaller) (map : FieldMap) (s : ScriptState)
    (requests : List Request) (s' : ScriptState) : Prop where
  none_called : (requests.filterMap Request.called?).getLast? = none → s'.child = s.child
  last_called : ∀ target, (requests.filterMap Request.called?).getLast? = some target →
    ∃ child, target.CalledFrame map caller.depth child ∧ s'.child = some child
  none_tooDeep : ¬ ((∃ r ∈ requests, r.CallsExecutable map) ∧ caller.limit < caller.depth + 1) →
    s'.tooDeep = s.tooDeep
  tooDeep : (∃ r ∈ requests, r.CallsExecutable map) → caller.limit < caller.depth + 1 →
    s'.tooDeep = some (.callTooDeep (caller.depth + 1) caller.limit)

/-- A request keeps the frame of a call that has succeeded, or the fault of one that is too deep. -/
theorem ScriptState.Serves.keeps {map : FieldMap} {r : Request}
    (h : ScriptState.Serves caller s r.deed r.answer s') (hmap : map.AgreesWith s.world.map) :
    s.Keeps caller map [r] s' := by
  generalize hdeed : r.deed = deed at h
  generalize hanswer : r.answer = answer at h
  cases h with
  | @called target child hchild =>
    have hspec := CallTarget.childFrame_spec caller.depth caller.limit map target
    rw [← CallTarget.childFrame_congr hmap, hchild] at hspec
    obtain ⟨-, hlimit, hcalled⟩ := hspec
    constructor <;> simp [Request.called?, hdeed, hanswer, hcalled]
    exact fun _ hdeep => absurd hlimit (UInt32.not_le.mpr hdeep)
  | @notCalled target hchild =>
    have hspec := CallTarget.childFrame_spec caller.depth caller.limit map target
    rw [← CallTarget.childFrame_congr hmap, hchild] at hspec
    constructor <;> simp [Request.called?, Request.CallsExecutable, hdeed, hanswer, hspec]
  | @tooDeep target fault hfault =>
    have hspec := CallTarget.childFrame_spec caller.depth caller.limit map target
    rw [← CallTarget.childFrame_congr hmap, hfault] at hspec
    obtain ⟨hquery, hlimit, rfl⟩ := hspec
    constructor <;> simp [Request.called?, Request.CallsExecutable, hdeed, hanswer, hquery]
    exact fun hshallow => absurd hlimit (UInt32.not_lt.mpr hshallow)
  | wrote | logged | queried =>
    constructor <;> simp [Request.called?, Request.CallsExecutable, hdeed]

/-- The last call that has succeeded is kept, and so is a fault. -/
theorem ScriptState.Keeps.trans {map : FieldMap} {requests requests' : List Request}
    {s₁ : ScriptState} (h : s.Keeps caller map requests s₁)
    (h' : s₁.Keeps caller map requests' s') : s.Keeps caller map (requests ++ requests') s' := by
  constructor
  · intro hnone
    rw [List.filterMap_append, List.getLast?_append, Option.or_eq_none_iff] at hnone
    exact (h'.none_called hnone.1).trans (h.none_called hnone.2)
  · intro target hlast
    rw [List.filterMap_append, List.getLast?_append, Option.or_eq_some_iff] at hlast
    rcases hlast with hlast | ⟨hnone, hlast⟩
    · exact h'.last_called target hlast
    · rw [h'.none_called hnone]
      exact h.last_called target hlast
  · simp only [List.mem_append, or_and_right, exists_or, not_or]
    rintro ⟨hfirst, hrest⟩
    exact (h'.none_tooDeep hrest).trans (h.none_tooDeep hfirst)
  · rintro ⟨r, hr, hcall⟩ hdeep
    by_cases hrest : ∃ r ∈ requests', r.CallsExecutable map
    · exact h'.tooDeep hrest hdeep
    · rw [h'.none_tooDeep fun hlater => hrest hlater.1]
      rcases List.mem_append.mp hr with hr | hr
      · exact h.tooDeep ⟨r, hr, hcall⟩ hdeep
      · exact absurd ⟨r, hr, hcall⟩ hrest

/-- What a host has answered a script, in a world and in the calls that it has kept. -/
theorem ScriptState.answers_keeps {map : FieldMap} {requests : List Request}
    (h : (scriptLibrary caller).Answers s requests s') (hmap : map.AgreesWith s.world.map) :
    s.world.Heeds caller.event requests s'.world ∧ s.Keeps caller map requests s' := by
  induction h with
  | nil =>
    refine ⟨.refl _ _, fun _ => rfl, ?_, fun _ => rfl, ?_⟩ <;> simp
  | @cons s s₁ s' name arguments function answer rest hknown hanswer _ ih =>
    have hserves := scriptLibrary_serves hknown hanswer
    have hheeds := ScriptState.Serves.heeds (r := ⟨name, arguments, answer⟩) hserves
    obtain ⟨hrest, hkeeps⟩ := ih (hmap.trans hheeds.map_agrees)
    have hfirst := ScriptState.Serves.keeps (r := ⟨name, arguments, answer⟩) hserves hmap
    exact ⟨hheeds.trans hrest, hfirst.trans hkeeps⟩

/-- A call that was too deep is what a script leads to, however it ends. -/
theorem ScriptState.result_of_tooDeep {fault : Fault} (h : s.tooDeep = some fault) (event : UInt32)
    (outcome : Except Script.Failure Script.Value) : s.result event outcome = .error fault := by
  simp only [result, h]

/-- Otherwise a failure of the script is. -/
theorem ScriptState.result_of_failure (h : s.tooDeep = none) (event : UInt32)
    (failure : Script.Failure) :
    s.result event (.error failure) = .error (.script event failure.message) := by
  simp only [result, h]

/-- Otherwise the frame that it has kept is. -/
theorem ScriptState.result_of_value (h : s.tooDeep = none) (event : UInt32)
    (value : Script.Value) : s.result event (.ok value) = .ok s.child := by
  simp only [result, h]

/-- The world is left as the script has left it, whatever becomes of the stack. -/
theorem Frame.afterScript_world (top : Frame) (below : FrameStack)
    (result : Except Fault (Option Frame)) (w : World) :
    (top.afterScript below (result, w)).world = w := by
  rcases result with _ | _ | _ <;> rfl

/-- What the run of a script leaves behind is what the field makes of it. -/
theorem runScript_of_runs {source : String} {program : Script.Program} {w : World}
    {requests : List Request} {outcome : Except Script.Failure Script.Value}
    (hread : Script.Program.read source = .ok program)
    (hruns : program.Runs (scriptLibrary caller) { world := w } requests outcome s) :
    runScript source caller w = (s.result caller.event outcome, s.world) := by
  have hrun : (program.run (scriptLibrary caller)).run { world := w } = (outcome, s) :=
    Script.Program.yields_run_iff.mpr ⟨requests, hruns⟩
  simp only [runScript, hread, hrun]

end

/-- The functions that a run has asked for are those of the field, each as what it is. -/
theorem scriptLibrary_asked {caller : ScriptCaller} {requests : List Request} {s s' : ScriptState}
    (h : (scriptLibrary caller).Answers s requests s') :
    ∀ r ∈ requests, ∃ f : FieldFunction,
      r.name = f.name ∧ r.arguments = f.arguments ∧ r.deed = f.deed := by
  induction h with
  | nil => exact fun _ hr => by cases hr
  | cons hknown _ _ ih =>
    obtain ⟨f, rfl, rfl⟩ := exists_fieldFunction hknown
    exact List.forall_mem_cons.mpr ⟨⟨f, rfl, rfl, f.deed_eq _⟩, ih⟩

/-- A yard with a sign that is nothing but a comment, a gate and a well. -/
private def yard : World where
  map := { events := Roster.ofList [MapEvent.ofList 2 "sign" [{ code := 108 }],
    MapEvent.ofList 3 "gate" [{ code := 106 }], MapEvent.ofList 4 "well" [{ code := 106 }]] }
  tables := {}

/-- The gate runs a script at some depth. -/
private def gatekeeper (depth : UInt32) : Frame :=
  { depth, source := .mapEvent 0 3, event := 3, list := [] }

/-- A script that catches the failure of its call still writes to the log, and the command reports
that the call was too deep. -/
example :
    let script := "try \x7b call_event(\"gate\"); \x7d catch (e) \x7b log(\"caught\"); \x7d"
    let effect := (Command.script script).execute 4 (gatekeeper 4) [] yard
    effect.flow = .fail (.callTooDeep 5 4) ∧
      effect.world.notices = [.scriptLog 3 "caught"] := by
  decide +kernel

/-- A script that opens the gate, calls it, goes to the well and fails to read the sign. -/
private def errand : String :=
  "set_others_self_switch(\"gate\", \"A\", true); call_event(\"gate\"); log(\"open\"); " ++
    "call_event_by_id(4); call_event(\"sign\")"

/-- The run of the errand, evaluated. -/
private theorem errand_run :
    let effect := (Command.script errand).execute 9 (gatekeeper 4) [] yard
    Script.isCovered FieldFunction.names ((gatekeeper 4).scriptText errand) = true ∧
      effect.flow = .go ∧ effect.frames.map (·.event) = [4, 3] ∧
      effect.world.notices =
        [.selfSwitchChanged { map := 0, event := some 3, switch := "A" } true,
          .scriptLog 3 "open"] := by
  decide +kernel

end Overworld
