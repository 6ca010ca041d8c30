import Overworld.Proofs.Interpreter.Owners

/-!
# Suspended callers

A frame waits until everything that it has called is gone. The upper part of a stack runs as if
it were alone: its turns are turns of the whole stack, and none of them reads or changes what it
stands on.
-/

namespace Overworld

open Relation

namespace Moment

/-- The moment with its stack put upon other frames. -/
def above (lower : FrameStack) (m : Moment) : Moment := { m with frames := m.frames ++ lower }

/-- Turns of the loop, one after the other, each of a frame that stands on some others. -/
abbrev LeadsAbove (limit : UInt32) (lower : FrameStack) : Moment → Moment → Prop :=
  ReflTransGen fun m m' =>
    (∃ upper : FrameStack, upper ≠ [] ∧ m.frames = upper ++ lower) ∧ m.Turns limit m'

section

variable {limit : UInt32} (lower : FrameStack)

/-- What the next command leads to does not depend on what waits below. -/
theorem effect_append (top : Frame) (below : FrameStack) (w : World) (i : Instruction) :
    effect limit top (below ++ lower) w i =
      { effect limit top below w i with frames := (effect limit top below w i).frames ++ lower } :=
  Command.execute_append ..

/-- A turn of the loop is a turn of the whole stack. -/
theorem Turns.above {m m' : Moment} (h : m.Turns limit m') :
    (m.above lower).Turns limit (m'.above lower) := by
  cases h with
  | drop hwait hdone => exact .drop hwait hdone
  | @execute left top below w i hwait hnext hflow =>
    have hflow : (effect limit top (below ++ lower) w i).flow = .go := by
      rw [effect_append, hflow]
    have hturn : Turns limit ⟨left + 1, top :: (below ++ lower), w⟩ _ :=
      .execute hwait hnext hflow
    rw [effect_append] at hturn
    exact hturn

/-- A turn of the loop takes a frame. -/
theorem Turns.frames_ne_nil {m m' : Moment} (h : m.Turns limit m') : m.frames ≠ [] := by
  cases h <;> exact List.cons_ne_nil _ _

/-- The turns of a tick are turns of the whole stack. -/
theorem Leads.above {m m' : Moment} (h : m.Leads limit m') :
    LeadsAbove limit lower (m.above lower) (m'.above lower) := by
  induction h with
  | refl => exact .refl
  | tail _ hturn ih => exact ih.tail ⟨⟨_, hturn.frames_ne_nil, rfl⟩, hturn.above lower⟩

/-- Turns above other frames are turns of the loop. -/
theorem LeadsAbove.leads {m m' : Moment} (h : LeadsAbove limit lower m m') : m.Leads limit m' :=
  ReflTransGen.mono (fun _ _ hturn => hturn.2) _ _ h

/-- The last turn is the last turn of the whole stack as well, unless it only finds that nothing is
left. -/
theorem Ends.above {m : Moment} {t : Tick} (h : m.Ends limit t) (hrunning : m.frames ≠ []) :
    (m.above lower).Ends limit { t with frames := t.frames ++ lower } := by
  cases h with
  | finished => exact absurd rfl hrunning
  | waiting hwait => exact .waiting hwait
  | spent hwait => exact .spent hwait
  | @transfers left top below w i hwait hnext hflow =>
    have hflow : (effect limit top (below ++ lower) w i).flow = .yield := by
      rw [effect_append, hflow]
    have hends : Ends limit ⟨left + 1, top :: (below ++ lower), w⟩ _ :=
      .transfers hwait hnext hflow
    rw [effect_append] at hends
    exact hends
  | @fails left top below w i fault hwait hnext hflow =>
    have hflow : (effect limit top (below ++ lower) w i).flow = .fail fault := by
      rw [effect_append, hflow]
    have hends : Ends limit ⟨left + 1, top :: (below ++ lower), w⟩ _ := .fails hwait hnext hflow
    rw [effect_append] at hends
    exact hends

/-- A tick finishes exactly if nothing is left. -/
theorem Ends.finished_iff {m : Moment} {t : Tick} (h : m.Ends limit t) :
    t.result = .ok .finished ↔ m.frames = [] := by
  cases h <;> simp

/-- When nothing is left the world stays as it is. -/
theorem Ends.world_eq {m : Moment} {t : Tick} (h : m.Ends limit t) (hempty : m.frames = []) :
    t.world = m.world := by
  cases h with
  | finished => rfl
  | waiting | spent | transfers | fails => cases hempty

/-- When nothing is left no command is executed. -/
theorem commands_eq_nil {m : Moment} (hempty : m.frames = []) : m.commands limit = [] := by
  rw [commands, hempty]
  cases m.left <;> rfl

end

end Moment

namespace Interpreter

/-- A caller is suspended until everything that it has called is gone. If the frames above do not
finish alone, the tick of the whole stack leads to the same and leaves the frames below as the
check of the map has bound them. If they finish, it comes to a moment with only those frames, in
the same world and after as many commands, and goes on from there. -/
theorem tick_suspends (i : Interpreter) (w : World) {upper lower : FrameStack} (hupper : upper ≠ [])
    (hlower : ∀ f ∈ lower, ∀ event, f.source = .mapEvent w.map.id event → w.map.Holds event) :
    let alone : Interpreter := { i with frames := upper }
    let whole : Interpreter := { i with frames := upper ++ lower }
    let suspended := lower.map (Frame.rebound w.map)
    let t := alone.tick w
    (t.result ≠ .ok .finished → whole.tick w = { t with frames := t.frames ++ suspended }) ∧
    (t.result = .ok .finished → ∃ left,
      i.commandsPerTick = (alone.commands w).length + left ∧
      (alone.opening w).Leads i.maxDepth ⟨left, [], t.world⟩ ∧
      (whole.opening w).LeadsAbove i.maxDepth suspended ⟨left, suspended, t.world⟩ ∧
      whole.tick w = Moment.run i.maxDepth ⟨left, suspended, t.world⟩) := by
  intro alone whole suspended t
  have hpresent : ∀ f ∈ lower, f.ownerPresent w.map = true :=
    fun f hf => Frame.ownerPresent_iff.mpr (hlower f hf)
  have hopening : whole.opening w = (alone.opening w).above suspended :=
    congrArg (Moment.mk i.commandsPerTick · w) (FrameStack.revalidate_append hpresent)
  have hwhole : whole.tick w = (whole.opening w).run i.maxDepth :=
    tick_eq_run w (List.append_ne_nil_of_left_ne_nil hupper lower)
  obtain ⟨m, hleads, hends⟩ := Moment.exists_ends i.maxDepth (alone.opening w)
  have halone : t = (alone.opening w).run i.maxDepth := tick_eq_run w hupper
  rw [← halone] at hends
  have habove := hleads.above suspended
  rw [← hopening] at habove
  refine ⟨fun hgoesOn => ?_, fun hfinished => ?_⟩
  · have hrunning : m.frames ≠ [] := fun hempty => hgoesOn (hends.finished_iff.mpr hempty)
    rw [hwhole, (habove.leads suspended).run_eq]
    exact (hends.above suspended hrunning).run_eq
  · have hempty : m.frames = [] := hends.finished_iff.mp hfinished
    obtain ⟨before, hcommands, hleft, -⟩ := hleads.commands_eq
    rw [Moment.commands_eq_nil hempty, List.append_nil] at hcommands
    have hm : m = ⟨m.left, [], t.world⟩ := by rw [hends.world_eq hempty, ← hempty]
    have hbelow : m.above suspended = ⟨m.left, suspended, t.world⟩ := by rw [hm]; rfl
    rw [hbelow] at habove
    refine ⟨m.left, ?_, hm ▸ hleads, habove, ?_⟩
    · rw [commands, hcommands]
      exact hleft
    · rw [hwhole, (habove.leads suspended).run_eq]

/-- The world of a map with one event. -/
private def guideWorld : World :=
  { map := { id := 7, events := Roster.ofList [MapEvent.ofList 1 "guide" []] }, tables := {} }

/-- The frame of that event, on a frame whose map is gone. -/
private def guideStack : FrameStack :=
  [{ depth := 1, source := .mapEvent 7 1, event := 1, list := [] },
    { depth := 0, source := .mapEvent 6 4, event := 4, list := [] }]

/-- A frame that is going to wait. -/
private def pause : Frame := { depth := 2, list := [{ code := 106, parameters := [.int 3] }] }

/-- A child that waits holds up the frame of an event of the map, and one whose map is gone. -/
theorem tick_suspends_guide :
    (tick { maxDepth := 9, commandsPerTick := 5, frames := pause :: guideStack } guideWorld).frames =
      [{ pause with cursor := 1, wait := 2 },
        { depth := 1, source := .mapEvent 7 1, event := 1, list := [] },
        { depth := 0, source := .detached, event := 0, list := [] }] := by
  have hlower : ∀ f ∈ guideStack, ∀ event, f.source = .mapEvent guideWorld.map.id event →
      guideWorld.map.Holds event := by
    intro f hf event hsource
    rcases List.mem_pair.mp hf with rfl | rfl
    · cases hsource
      exact ⟨MapEvent.ofList 1 "guide" [], rfl, rfl⟩
    · simp [guideWorld] at hsource
  have hsuspends := (tick_suspends { maxDepth := 9, commandsPerTick := 5 } guideWorld
    (List.cons_ne_nil pause []) hlower).1 (by intro hfinished; cases hfinished)
  exact congrArg Tick.frames hsuspends

end Interpreter

end Overworld
