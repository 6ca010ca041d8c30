import Mathlib.Data.List.Basic
import Overworld.Proofs.Surroundings
import Overworld.Session.Plugin

/-!
# Every hook runs

A plugin that fails keeps no other plugin from running. The hooks of a kind run one after the other
to the last of them, each in the context that the one before it has left, and the answer is the
first failure that stops a frame. The plugins whose hooks run are those that have been registered,
as their own hooks have left them since.
-/

namespace Overworld

namespace Fault

/-- A fault is carried by itself and by what it is the cause of. -/
inductive CarriedBy (fault : Fault) : Fault → Prop
  | itself : CarriedBy fault fault
  | asCause {outer cause : Fault} (hcause : outer.cause? = some cause)
      (h : CarriedBy fault cause) : CarriedBy fault outer

/-- A fault of the field, and not one that was reported from outside. -/
def IsOfField : Fault → Prop
  | .lookupMiss _ _ | .invalidTarget _ _ | .corrupt _ _ _ | .callTooDeep _ _ | .script _ _ => True
  | _ => False

/-- The fault of a target that is missing or has nothing to execute. -/
def IsOfTarget : Fault → Prop
  | .lookupMiss _ _ | .invalidTarget _ _ => True
  | _ => False

/-- A fault that stops a frame: it carries a fault of the field that is not one of a target. -/
def Stops (fault : Fault) : Prop :=
  ∃ carried, CarriedBy carried fault ∧ carried.IsOfField ∧ ¬ carried.IsOfTarget

/-- What a fault met in the course of a task carries, besides itself, is what was met. -/
theorem stops_during {task : Task} {cause : Fault} : (during task cause).Stops ↔ cause.Stops := by
  constructor
  · rintro ⟨carried, hcarried, hfield, htarget⟩
    cases hcarried with
    | itself => exact hfield.elim
    | asCause hcause hcarried =>
      cases hcause
      exact ⟨carried, hcarried, hfield, htarget⟩
  · rintro ⟨carried, hcarried, hfield⟩
    exact ⟨carried, .asCause rfl hcarried, hfield⟩

/-- The faults that are fatal are those that stop a frame. -/
theorem isFatal_iff_stops {fault : Fault} : fault.isFatal = true ↔ fault.Stops := by
  induction fault with
  | during task cause ih => exact ih.trans stops_during.symm
  | corrupt | callTooDeep | script =>
    exact iff_of_true rfl ⟨_, .itself, trivial, id⟩
  | lookupMiss | invalidTarget =>
    refine iff_of_false (by simp [isFatal, ofField?]) ?_
    rintro ⟨carried, hcarried, -, htarget⟩
    cases hcarried with
    | itself => exact htarget trivial
    | asCause hcause => cases hcause
  | _ =>
    refine iff_of_false (by simp [isFatal, ofField?]) ?_
    rintro ⟨carried, hcarried, hfield, -⟩
    cases hcarried with
    | itself => exact hfield
    | asCause hcause => cases hcause

end Fault

namespace Plugin

variable {σ π : Type}

/-- A hook of plugins runs, one plugin after the other, each in the context that the one before it
leaves. These are the outcomes, and the context that the last one leaves. -/
inductive HooksRun (hook : π → FieldContext → StateM σ (Hooked π)) :
    List π → FieldContext → σ → List (Hooked π) → FieldContext → σ → Prop
  | done {c : FieldContext} {s : σ} : HooksRun hook [] c s [] c s
  | next {plugin : π} {rest : List π} {c c' : FieldContext} {hooked : Hooked π}
      {outcomes : List (Hooked π)} {s s₁ s' : σ} (hhook : Yields (hook plugin c) s hooked s₁)
      (hrest : HooksRun hook rest hooked.context s₁ outcomes c' s') :
      HooksRun hook (plugin :: rest) c s (hooked :: outcomes) c' s'

/-- A hook has failed with a fault that stops a frame. -/
def HaltsWith (hooked : Hooked π) (fault : Fault) : Prop :=
  hooked.result = .error fault ∧ fault.Stops

/-- The first of the outcomes that stops a frame does so with this fault. -/
def FirstHalt (outcomes : List (Hooked π)) (fault : Fault) : Prop :=
  ∃ earlier hooked later, outcomes = earlier ++ hooked :: later ∧ HaltsWith hooked fault ∧
    ∀ other ∈ earlier, ∀ fault', ¬ HaltsWith other fault'

/-- The answer to the outcomes of hooks is a failure if one of them stops a frame, and then it is
the failure of the first one that does. -/
structure Answers (result : Except Fault Unit) (outcomes : List (Hooked π)) : Prop where
  fails_iff : (∃ fault, result = .error fault) ↔
    ∃ hooked ∈ outcomes, ∃ fault, HaltsWith hooked fault
  first_iff : ∀ fault, result = .error fault ↔ FirstHalt outcomes fault

/-- A call that runs a hook of every plugin, and answers for all of them. -/
def RunsEvery (hook : π → FieldContext → StateM σ (Hooked π)) (plugins : List π)
    (c : FieldContext) (call : StateM σ (HookRun π)) : Prop :=
  ∀ s run s', Yields call s run s' →
    ∃ outcomes, HooksRun hook plugins c s outcomes run.context s' ∧
      run.plugins = outcomes.map (·.plugin) ∧ Answers run.result outcomes

section

variable {hooked : Hooked π} {outcomes : List (Hooked π)} {fault : Fault}
  {result : Except Fault Unit}

/-- Without outcomes nothing stops a frame. -/
theorem not_firstHalt_nil : ¬ FirstHalt ([] : List (Hooked π)) fault := by
  rintro ⟨earlier, hooked, later, houtcomes, -⟩
  simp at houtcomes

/-- The first of the outcomes stops a frame, or the first of the others that does so. -/
theorem firstHalt_cons :
    FirstHalt (hooked :: outcomes) fault ↔
      HaltsWith hooked fault ∨
        ((∀ fault', ¬ HaltsWith hooked fault') ∧ FirstHalt outcomes fault) := by
  constructor
  · rintro ⟨_ | ⟨other, earlier⟩, first, later, houtcomes, hfirst, hearlier⟩
    · cases houtcomes
      exact .inl hfirst
    · cases houtcomes
      obtain ⟨hother, hearlier⟩ := List.forall_mem_cons.mp hearlier
      exact .inr ⟨hother, earlier, first, later, rfl, hfirst, hearlier⟩
  · rintro (hfirst | ⟨hother, earlier, first, later, rfl, hfirst, hearlier⟩)
    · exact ⟨[], hooked, outcomes, rfl, hfirst, by simp⟩
    · exact ⟨hooked :: earlier, first, later, rfl, hfirst,
        List.forall_mem_cons.mpr ⟨hother, hearlier⟩⟩

/-- If one of the outcomes stops a frame, there is a first one that does. -/
theorem exists_firstHalt :
    (∃ fault, FirstHalt outcomes fault) ↔ ∃ hooked ∈ outcomes, ∃ fault, HaltsWith hooked fault := by
  induction outcomes with
  | nil => simp [not_firstHalt_nil]
  | cons hooked outcomes ih =>
    simp only [firstHalt_cons, exists_or, exists_and_left, ih, List.exists_mem_cons_iff]
    by_cases hhalts : ∃ fault, HaltsWith hooked fault
    · exact iff_of_true (.inl hhalts) (.inl hhalts)
    · simp [not_exists.mp hhalts]

/-- The failure of one hook counts before those of the hooks behind it. -/
theorem firstFatal_eq_error :
    firstFatal hooked.result result = .error fault ↔
      HaltsWith hooked fault ∨ ((∀ fault', ¬ HaltsWith hooked fault') ∧ result = .error fault) := by
  unfold HaltsWith firstFatal
  cases hooked.result with
  | ok => simp
  | error own =>
    by_cases hstops : own.Stops
    · simp only [Fault.isFatal_iff_stops.mpr hstops, if_true, Except.error.injEq]
      constructor
      · rintro rfl
        exact .inl ⟨rfl, hstops⟩
      · rintro (⟨hsame, -⟩ | ⟨hnone, -⟩)
        · exact hsame
        · exact absurd ⟨rfl, hstops⟩ (hnone own)
    · simp only [if_neg (mt Fault.isFatal_iff_stops.mp hstops), Except.error.injEq]
      constructor
      · rintro hresult
        exact .inr ⟨fun fault' h => hstops (h.1 ▸ h.2), hresult⟩
      · rintro (⟨rfl, hstops'⟩ | ⟨-, hresult⟩)
        · exact absurd hstops' hstops
        · exact hresult

/-- What answers for the first failure answers for all. -/
theorem Answers.of_first (h : ∀ fault, result = .error fault ↔ FirstHalt outcomes fault) :
    Answers result outcomes where
  fails_iff := (exists_congr h).trans exists_firstHalt
  first_iff := h

/-- Without outcomes there is no failure. -/
theorem answers_nil : Answers (.ok ()) ([] : List (Hooked π)) :=
  .of_first fun _ => iff_of_false (by simp) not_firstHalt_nil

/-- One outcome in front of others is answered as well. -/
theorem Answers.cons (h : Answers result outcomes) :
    Answers (firstFatal hooked.result result) (hooked :: outcomes) :=
  .of_first fun fault => by rw [firstFatal_eq_error, firstHalt_cons, h.first_iff]

end

/-- The hooks of all plugins run, and the answer is for all of them. -/
theorem runAll_runsEvery (hook : π → FieldContext → StateM σ (Hooked π)) (plugins : List π)
    (c : FieldContext) : RunsEvery hook plugins c (runAll hook c plugins) := by
  induction plugins generalizing c with
  | nil =>
    intro s run s' h
    obtain ⟨rfl, rfl⟩ := yields_pure.mp h
    exact ⟨[], .done, rfl, answers_nil⟩
  | cons plugin rest ih =>
    intro s run s' h
    simp only [runAll, yields_bind, yields_pure] at h
    obtain ⟨hooked, s₁, hhook, later, s₂, hrest, rfl, rfl⟩ := h
    obtain ⟨outcomes, hothers, hplugins, hanswers⟩ := ih _ _ _ _ hrest
    exact ⟨hooked :: outcomes, .next hhook hothers, congrArg (hooked.plugin :: ·) hplugins,
      hanswers.cons⟩

/-- What a plugin of a manager has been through: its registration, and the hooks that have run
since. -/
structure Career (π : Type) where
  registration : Hooked π
  later : List (Hooked π) := []

namespace Career

/-- The plugin as its last hook has left it. -/
def plugin (career : Career π) : π := (career.later.getLastD career.registration).plugin

/-- One more hook has run. -/
def add (career : Career π) (hooked : Hooked π) : Career π :=
  { career with later := career.later ++ [hooked] }

@[simp] theorem plugin_add (career : Career π) (hooked : Hooked π) :
    (career.add hooked).plugin = hooked.plugin := by
  simp [plugin, add]

end Career

/-- The calls of a manager that run hooks: once a frame, and before a transfer. -/
inductive Occasion where
  | frame (input : Input)
  | transfer (source target : UInt32)

section

variable [Plugin (StateM σ) π]

/-- The hook that runs on an occasion. -/
def Occasion.hook : Occasion → π → FieldContext → StateM σ (Hooked π)
  | .frame input, plugin, c => Plugin.update plugin input c
  | .transfer source target, plugin, c => Plugin.onTransfer plugin source target c

/-- The call that runs the hooks of an occasion. -/
def Occasion.call (plugins : List π) (c : FieldContext) : Occasion → StateM σ (HookRun π)
  | .frame input => updateAll plugins input c
  | .transfer source target => transferAll plugins source target c

end

/-- The plugins of a manager, with the careers that they have had. It has been asked to register
plugins and to run their hooks, any number of times and in any order, and every time in any context
and any surroundings. A plugin whose registration has failed has no career. -/
inductive Managed (σ : Type) [Plugin (StateM σ) π] : List (Career π) → List π → Prop
  | empty : Managed σ [] []
  | registered {careers : List (Career π)} {plugins : List π} {plugin : π} {c : FieldContext}
      {hooked : Hooked π} {run : HookRun π} {s s₁ s' : σ} (h : Managed σ careers plugins)
      (hbuild : Yields (Plugin.build plugin c) s hooked s₁) (hok : hooked.result = .ok ())
      (hrun : Yields (register plugins plugin c) s run s') :
      Managed σ (careers ++ [{ registration := hooked }]) run.plugins
  | refused {careers : List (Career π)} {plugins : List π} {plugin : π} {c : FieldContext}
      {hooked : Hooked π} {fault : Fault} {run : HookRun π} {s s₁ s' : σ}
      (h : Managed σ careers plugins) (hbuild : Yields (Plugin.build plugin c) s hooked s₁)
      (hfails : hooked.result = .error fault)
      (hrun : Yields (register plugins plugin c) s run s') : Managed σ careers run.plugins
  | called {careers : List (Career π)} {plugins : List π} {occasion : Occasion}
      {c c' : FieldContext} {outcomes : List (Hooked π)} {run : HookRun π} {s s₁ s' : σ}
      (h : Managed σ careers plugins)
      (hhooks : HooksRun occasion.hook plugins c s outcomes c' s₁)
      (hrun : Yields (occasion.call plugins c) s run s') :
      Managed σ ((careers.zip outcomes).map fun part => part.1.add part.2) run.plugins

section

variable {hook : π → FieldContext → StateM σ (Hooked π)} {plugins : List π}
  {c c' c'' : FieldContext} {outcomes outcomes' : List (Hooked π)} {s s' s'' : σ}

/-- Every plugin has an outcome. -/
theorem HooksRun.length_eq (h : HooksRun hook plugins c s outcomes c' s') :
    outcomes.length = plugins.length := by
  induction h with
  | done => rfl
  | next _ _ ih => rw [List.length_cons, List.length_cons, ih]

/-- Hooks that run in the same context and the same surroundings have the same outcomes, and leave
the same context. -/
theorem HooksRun.unique (h : HooksRun hook plugins c s outcomes c' s')
    (h' : HooksRun hook plugins c s outcomes' c'' s'') : outcomes' = outcomes ∧ c'' = c' := by
  induction h generalizing outcomes' with
  | done =>
    cases h'
    exact ⟨rfl, rfl⟩
  | next hhook _ ih =>
    cases h' with
    | next hhook' hrest' =>
      obtain ⟨rfl, rfl⟩ := hhook.unique hhook'
      obtain ⟨rfl, rfl⟩ := ih hrest'
      exact ⟨rfl, rfl⟩

variable [Plugin (StateM σ) π] {careers : List (Career π)}

/-- On every occasion the hooks of all plugins run. -/
theorem call_runsEvery (occasion : Occasion) (plugins : List π) (c : FieldContext) :
    RunsEvery occasion.hook plugins c (occasion.call plugins c : StateM σ (HookRun π)) := by
  have hall := runAll_runsEvery (occasion.hook (σ := σ)) plugins c
  cases occasion with
  | frame | transfer => exact hall

/-- A plugin is registered behind the others if its hook does not fail. -/
theorem yields_register {plugin : π} {hooked : Hooked π} {run : HookRun π}
    (hbuild : Yields (Plugin.build plugin c) s hooked s')
    (hrun : Yields (register plugins plugin c) s run s'') :
    (hooked.result = .ok () → run.plugins = plugins ++ [hooked.plugin]) ∧
      ∀ fault, hooked.result = .error fault → run.plugins = plugins := by
  obtain ⟨hooked', s₁, hbuild', hrun⟩ := yields_bind.mp hrun
  obtain ⟨rfl, rfl⟩ := hbuild.unique hbuild'
  constructor
  · intro hok
    simp only [hok, yields_pure] at hrun
    rw [hrun.1]
  · intro fault hfails
    simp only [hfails, yields_pure] at hrun
    rw [hrun.1]

/-- The plugins of a manager are those that have careers, as their last hooks have left them. -/
theorem Managed.plugins_eq (h : Managed σ careers plugins) :
    plugins = careers.map Career.plugin := by
  induction h with
  | empty => rfl
  | registered _ hbuild hok hrun ih =>
    rw [(yields_register hbuild hrun).1 hok, ih, List.map_append]
    rfl
  | refused _ hbuild hfails hrun ih => rw [(yields_register hbuild hrun).2 _ hfails, ih]
  | @called careers plugins occasion c c' outcomes run s s₁ s' _ hhooks hrun ih =>
    obtain ⟨outcomes', hhooks', hplugins, -⟩ := call_runsEvery occasion plugins c s run s' hrun
    obtain ⟨rfl, -⟩ := hhooks.unique hhooks'
    have hlength : outcomes'.length ≤ careers.length :=
      Nat.le_of_eq (by rw [hhooks.length_eq, ih, List.length_map])
    calc run.plugins
      _ = ((careers.zip outcomes').map (·.2)).map (·.plugin) := by
        rw [hplugins, List.map_snd_zip hlength]
      _ = ((careers.zip outcomes').map fun part => part.1.add part.2).map Career.plugin := by
        simp only [List.map_map, Function.comp_def, Career.plugin_add]

/-- Every career begins with a registration that has not failed. -/
theorem Managed.registration_ok (h : Managed σ careers plugins) :
    ∀ career ∈ careers, career.registration.result = .ok () := by
  induction h with
  | empty => simp
  | registered _ _ hok _ ih =>
    intro career hcareer
    rcases List.mem_append.mp hcareer with hcareer | hcareer
    · exact ih career hcareer
    · rw [List.mem_singleton.mp hcareer]
      exact hok
  | refused _ _ _ _ ih => exact ih
  | called _ _ _ ih =>
    intro career hcareer
    obtain ⟨part, hpart, rfl⟩ := List.mem_map.mp hcareer
    exact ih part.1 (List.of_mem_zip hpart).1

/-- **Every hook runs.** Once a frame and before a transfer the hooks of all plugins run, each of
them once, in order and in the context that the one before it has left, whatever the others have
answered. The answer is the first failure that stops a frame. The plugins of a manager are those
whose registration has not failed, in the order of registration. -/
theorem every_hook_runs (plugins : List π) (c : FieldContext) :
    (∀ occasion : Occasion,
        RunsEvery occasion.hook plugins c (occasion.call plugins c : StateM σ (HookRun π))) ∧
      ∀ careers : List (Career π), Managed σ careers plugins →
        plugins = careers.map Career.plugin ∧
          ∀ career ∈ careers, career.registration.result = .ok () :=
  ⟨fun occasion => call_runsEvery occasion plugins c,
    fun _ h => ⟨h.plugins_eq, h.registration_ok⟩⟩

end

/-- A plugin that tells its name whenever a hook of it runs. It cannot be registered if it has no
name. -/
private structure Herald where
  name : String
  answer : Except Fault Unit
  runs : Nat := 0

/-- The hook of a herald. -/
private def Herald.speak (herald : Herald) (c : FieldContext) : Hooked Herald :=
  { result := herald.answer
    plugin := { herald with runs := herald.runs + 1 }
    context := c.notify (.scriptLog 0 herald.name) }

private instance : Plugin (StateM Unit) Herald where
  build herald c :=
    let result := if herald.name = "" then .error (.reported "no name") else .ok ()
    return { result, plugin := herald, context := c }
  update herald _ c := return herald.speak c
  onTransfer herald _ _ c := return herald.speak c

/-- A fault that stops no frame. -/
private def lost : Herald := { name := "lost", answer := .error (.lookupMiss 1 "gate") }

/-- A fault that was met in the course of a task. -/
private def deep : Herald :=
  { name := "deep", answer := .error (.during (.startMap 1) (.callTooDeep 3 2)) }

/-- A second fault that stops a frame. -/
private def late : Herald := { name := "late", answer := .error (.script 4 "late") }

/-- A herald that is refused. -/
private def nobody : Herald := { name := "", answer := .ok () }

/-- The context of the heralds. -/
private def court : FieldContext := { layout := .inDirectory ⟨"Data"⟩, scene := .other .menu }

/-- What the heralds lead to, one behind the other. -/
private def speeches : List (Hooked Herald) :=
  [lost.speak court, deep.speak (lost.speak court).context,
    late.speak (deep.speak (lost.speak court).context).context]

/-- Three heralds are registered, and one between them is refused. All three of them speak, though
all of them fail, and the second one's failure is the answer. -/
theorem every_hook_runs_heralds :
    (∀ run s', Yields (updateAll [lost, deep, late] {} court : StateM Unit _) () run s' →
      run.result = deep.answer ∧ run.plugins.map (·.runs) = [1, 1, 1] ∧
        run.context.notices =
          [.scriptLog 0 "lost", .scriptLog 0 "deep", .scriptLog 0 "late"]) ∧
      ∃ careers, Managed Unit careers [lost, deep, late] ∧ careers.map Career.plugin =
        [lost, deep, late] := by
  have hmanaged : Managed Unit
      [⟨{ plugin := lost, context := court }, []⟩, ⟨{ plugin := deep, context := court }, []⟩,
        ⟨{ plugin := late, context := court }, []⟩] [lost, deep, late] := by
    have hbuild (herald : Herald) := yields_run (Plugin.build herald court : StateM Unit _) ()
    have hregister (plugins : List Herald) (herald : Herald) :=
      yields_run (register plugins herald court : StateM Unit _) ()
    have hlost := Managed.registered .empty (hbuild lost) rfl (hregister [] lost)
    have hdeep := hlost.registered (hbuild deep) rfl (hregister [lost] deep)
    have hnobody := hdeep.refused (hbuild nobody) rfl (hregister [lost, deep] nobody)
    exact hnobody.registered (hbuild late) rfl (hregister [lost, deep] late)
  obtain ⟨hcalls, hcareers⟩ := @every_hook_runs Unit Herald _ [lost, deep, late] court
  refine ⟨fun run s' h => ?_, _, hmanaged, (hcareers _ hmanaged).1.symm⟩
  obtain ⟨outcomes, hhooks, hplugins, hanswers⟩ := hcalls (.frame {}) () run s' h
  have hspeeches : HooksRun (Occasion.frame {}).hook [lost, deep, late] court () speeches
      (late.speak (deep.speak (lost.speak court).context).context).context () :=
    .next rfl (.next rfl (.next rfl .done))
  obtain ⟨rfl, hcontext⟩ := hspeeches.unique hhooks
  have hdeep : Fault.Stops (.during (.startMap 1) (.callTooDeep 3 2)) :=
    Fault.isFatal_iff_stops.mp rfl
  have hlost : ¬ Fault.Stops (.lookupMiss 1 "gate") := fun h => by
    cases Fault.isFatal_iff_stops.mpr h
  refine ⟨(hanswers.first_iff _).mpr ⟨[lost.speak court], _, _, rfl, ⟨rfl, hdeep⟩, ?_⟩, ?_, ?_⟩
  · rintro other hother fault ⟨hresult, hstops⟩
    rw [List.mem_singleton.mp hother] at hresult
    cases hresult
    exact hlost hstops
  · rw [hplugins]
    rfl
  · rw [hcontext]
    rfl

end Plugin

end Overworld
