import Mathlib
import Overworld.Proofs.Session.Course

/-!
# The buttons of debug mode

Two buttons are there for debug mode: one shows and hides the collision overlay, the other one lets
the player walk through obstacles. Outside debug mode no part of a frame asks for them, and no frame
turns the mode on. So two runs of a session that differ in nothing but these buttons are one.
-/

namespace Overworld

/-- The buttons that are there for debug mode. -/
def Button.isForDebug : Button → Bool
  | .cancel | .debugOverlay => true
  | _ => false

/-- Two inputs that differ at most in the buttons for debug mode. -/
def Input.AgreesInPlay (input input' : Input) : Prop :=
  ∀ button : Button, button.isForDebug = false →
    input'.press button = input.press button ∧ input'.trigger button = input.trigger button

/-- Computations that lead to the same in all surroundings are one. -/
theorem yields_ext {σ α : Type} {x y : StateM σ α}
    (h : ∀ s a s', Yields x s a s' → Yields y s a s') : x = y := by
  funext s
  exact (h s _ _ (yields_run x s)).symm

section

variable {input input' : Input}

/-- Outside debug mode the overlay does nothing in a frame. -/
theorem Overlay.onUpdate_of_not_debug {o : Overlay} {c : FieldContext} (hdebug : c.debug = false) :
    o.onUpdate input c = { plugin := o, context := c } := by
  rw [onUpdate, hdebug, Bool.false_and, if_neg Bool.false_ne_true]

/-- Inputs that agree in play move the player in the same direction. -/
theorem Input.AgreesInPlay.find?_moves (h : input.AgreesInPlay input') :
    (Button.moves.find? fun move => input'.press move.1) =
      Button.moves.find? fun move => input.press move.1 := by
  simp only [Button.moves, List.find?_cons, List.find?_nil, (h .down rfl).1, (h .left rfl).1,
    (h .right rfl).1, (h .up rfl).1]

/-- Outside debug mode inputs that agree in play move the player alike. -/
theorem FieldContext.steer_of_agrees {c : FieldContext} (hdebug : c.debug = false)
    (h : input.AgreesInPlay input') : c.steer input' = c.steer input := by
  simp only [steer, h.find?_moves, hdebug, Bool.false_and]

namespace Session

section

variable {ε : Type} {s : Session ε}

/-- Outside debug mode the player reacts alike to inputs that agree in play. -/
theorem reactToInput_of_agrees (hdebug : s.context.debug = false) (h : input.AgreesInPlay input') :
    s.reactToInput input' = s.reactToInput input := by
  simp only [reactToInput, FieldContext.steer_of_agrees hdebug h, (h .confirm rfl).2]

/-- Outside debug mode inputs that agree in play make the same of the map on screen, up to a
transfer. -/
theorem play_of_agrees (hdebug : s.context.debug = false) (h : input.AgreesInPlay input') :
    s.play input' = s.play input := by
  have hran := ((refreshIfNeeded_inPlace s).trans (runInterpreter_inPlace _)).debug_eq
  unfold play
  cases hrun : s.refreshIfNeeded.runInterpreter with
  | mk result s₁ =>
    rw [hrun] at hran
    cases result with
    | error fault => rfl
    | ok outcome =>
      have hoff : s₁.refreshIfNeeded.context.debug = false := hran.trans hdebug
      simp only [reactToInput_of_agrees hoff h]

/-- The hooks of a session's own plugins do not turn debug mode on, and outside of it they do not
look at the input. -/
theorem ownHooks_of_not_debug {o : Overlay} {t : ReloadTick} (hdebug : t.context.debug = false)
    (input : Input) :
    (ownHooks o input t : HookRun (Extension ε)) =
      { result := Plugin.firstFatal (t.result.map fun _ => ()) (.ok ())
        plugins := [.reload t.watcher, .overlay o]
        context := t.context } := by
  simp only [ownHooks, Overlay.onUpdate_of_not_debug hdebug, Plugin.firstFatal]

/-- A session with its own plugins and without debug mode. -/
structure IsPlain (s : Session ε) : Prop where
  own_plugins : ∃ w o, s.plugins = [.reload w, .overlay o]
  debug_off : s.context.debug = false

/-- A session stays plain through changes in place. -/
theorem IsPlain.inPlace {s' : Session ε} (hs : s.IsPlain) (h : s.InPlace s') : s'.IsPlain where
  own_plugins := h.plugins_eq ▸ hs.own_plugins
  debug_off := h.debug_eq.trans hs.debug_off

variable {σ : Type} [DataSource (StateM σ)] [BitmapLoader (StateM σ)] [Plugin (StateM σ) ε]

/-- A session stays plain through a transfer. -/
theorem IsPlain.transferred {s' : Session ε} {target : UInt32} {x y : Int}
    {result : Except Fault Unit} {a b : σ} (hs : s.IsPlain)
    (h : Yields (s.transfer target x y) a (result, s') b) : s'.IsPlain := by
  obtain ⟨⟨w, o, hplugins⟩, hdebug⟩ := hs
  obtain ⟨hkept, harrives⟩ := transfer_takesDown hplugins h
  refine ⟨⟨w, o.hide, hkept⟩, harrives.debug_eq.trans ?_⟩
  unfold Overlay.onTransfer
  split <;> exact hdebug

/-- A session stays plain through a frame, however it ends. -/
theorem IsPlain.updated {s' : Session ε} {outcome : Except Fault TickOutcome} {a b : σ}
    (hs : s.IsPlain) (h : Yields (s.update input) a (outcome, s') b) : s'.IsPlain := by
  obtain ⟨⟨w, o, hplugins⟩, hdebug⟩ := hs
  obtain ⟨t, a₁, htick, -, hends⟩ := update_own hplugins h
  have hoff : t.context.debug = false := (tick_watched htick).debug_eq.trans hdebug
  have hlooked : (s.looked (ownHooks o input t)).IsPlain := by
    rw [ownHooks_of_not_debug hoff]
    exact ⟨⟨_, _, rfl⟩, hoff⟩
  rcases hends with ⟨-, hplace⟩ | ⟨-, hbefore, htransfer, hbehind⟩
  · exact hlooked.inPlace hplace
  · exact ((hlooked.inPlace hbefore).transferred htransfer).inPlace hbehind

/-- Outside debug mode inputs that agree in play lead to the same with the map on screen. -/
theorem playMap_of_agrees (hdebug : s.context.debug = false) (h : input.AgreesInPlay input') :
    (s.playMap input' : StateM σ (Except Fault TickOutcome × Session ε)) = s.playMap input := by
  rw [playMap_eq, playMap_eq, play_of_agrees hdebug h]

/-- In a frame of a plain session inputs that agree in play lead to the same. -/
theorem IsPlain.update_of_agrees (hs : s.IsPlain) (h : input.AgreesInPlay input') :
    (s.update input' : StateM σ (Except Fault TickOutcome × Session ε)) = s.update input := by
  obtain ⟨⟨w, o, hplugins⟩, hdebug⟩ := hs
  refine yields_ext fun a played b hplayed => ?_
  rw [update_eq, hplugins] at hplayed ⊢
  obtain ⟨hooks, a₁, hhooks, hrest⟩ := yields_bind.mp hplayed
  obtain ⟨t, htick, rfl⟩ := yields_updateAll_own.mp hhooks
  have hoff : t.context.debug = false := (tick_watched htick).debug_eq.trans hdebug
  have hsame : (ownHooks o input t : HookRun (Extension ε)) = ownHooks o input' t := by
    rw [ownHooks_of_not_debug hoff, ownHooks_of_not_debug hoff]
  have hlooked : (s.looked (ownHooks o input' t)).context.debug = false := by
    rw [ownHooks_of_not_debug hoff]
    exact hoff
  rw [playMap_of_agrees hlooked h] at hrest
  exact yields_bind.mpr ⟨_, a₁, yields_updateAll_own.mpr ⟨t, htick, hsame.symm⟩, hrest⟩

end

section

variable {ε : Type} {m : Type → Type} [Monad m] [BitmapLoader m] [DataSource m] [Plugin m ε]

/-- Plays one frame after the other, whether they fail or not, and tells how each of them has ended
and what the session was then. Something may happen outside before a frame, and behind each the
notices are taken. -/
def runFrames : List (m Unit × Input) → Session ε → m (List (Except Fault TickOutcome × Session ε))
  | [], _ => return []
  | (outside, input) :: rest, s => do
    outside
    let (outcome, s) ← s.update input
    let later ← runFrames rest s.takeNotices.2
    return (outcome, s) :: later

end

variable {σ ε : Type} [DataSource (StateM σ)] [BitmapLoader (StateM σ)] [Plugin (StateM σ) ε]

/-- **Outside debug mode the buttons of debug mode do nothing.** In two runs of a session with its
own plugins, with the same going on outside and inputs that agree in play, every frame ends alike
and leaves the same session, also if it reloads, transfers the player or fails. -/
theorem runFrames_of_agrees {w : ReloadWatcher} {o : Overlay} {s : Session ε}
    {frames frames' : List (StateM σ Unit × Input)} (hplugins : s.plugins = [.reload w, .overlay o])
    (hdebug : s.context.debug = false)
    (h : List.Forall₂ (fun f f' => f'.1 = f.1 ∧ f.2.AgreesInPlay f'.2) frames frames') :
    s.runFrames frames' = s.runFrames frames := by
  have hs : s.IsPlain := ⟨⟨w, o, hplugins⟩, hdebug⟩
  clear hplugins hdebug
  induction h generalizing s with
  | nil => rfl
  | @cons frame frame' rest rest' hframe _ ih =>
    obtain ⟨outside, input⟩ := frame
    obtain ⟨_, input'⟩ := frame'
    obtain ⟨rfl, hinput⟩ := hframe
    refine yields_ext fun a told b htold => ?_
    obtain ⟨_, a₁, houtside, htold⟩ := yields_bind.mp htold
    obtain ⟨⟨outcome, s₁⟩, a₂, hupdate, htold⟩ := yields_bind.mp htold
    rw [hs.update_of_agrees hinput] at hupdate
    have hplain := hs.updated hupdate
    simp only [ih (s := s₁.takeNotices.2) ⟨hplain.own_plugins, hplain.debug_off⟩] at htold
    exact yields_bind.mpr ⟨_, a₁, houtside, yields_bind.mpr ⟨_, a₂, hupdate, htold⟩⟩

/-- The surroundings of a data set with one map of two tiles. `saved` is the time of the last
save. -/
private structure MeadowFiles where
  saved : Int

/-- The file of the map. -/
private def meadowPath : FilePath := ⟨"meadow"⟩

private instance : DataSource (StateM MeadowFiles) where
  read path :=
    let text :=
      if path = meadowPath then "\x7b\"tileset_id\":1,\"width\":2,\"height\":1\x7d" else "[]"
    return .ok text.toUTF8.toList
  modified _ := do return .ok { seconds := (← get).saved }
  observe _ := return false
  noticed := return true
  pause _ := return ()

private instance : BitmapLoader (StateM MeadowFiles) := .blank

/-- A session on the meadow without debug mode, with a watcher that has seen an earlier save. -/
private def meadowSession : Session Empty :=
  { context :=
      { layout :=
          { tablePath := fun _ => ⟨"table"⟩, mapPath := fun _ => meadowPath, watchRoot := none }
        snapshot := { map := FieldMap.ofRecord 1 { tileset := 1, width := 2, height := 1 } [] {} }
        player := { character := "" }
        scene := .map { map := 1, tileset := .placeholder, characters := [] } }
    plugins :=
      [.reload
          { config := { confirmFingerprint := false }, marker := .actors
            baseline := some { seconds := 0 } },
        .overlay (ownOverlay {})]
    interpreter := .ofConfig 0 {} }

/-- Steps to the right and back, with a save in between. `more` are the buttons that are pressed
besides. -/
private def meadowWalk (more : List Button) : List (StateM MeadowFiles Unit × Input) :=
  [(pure (), { held := .right :: more, triggered := more }),
    (set (⟨1⟩ : MeadowFiles), { held := .left :: more })]

/-- On the meadow the buttons of debug mode change neither the first step nor the reload behind
it. -/
theorem runFrames_of_agrees_meadow :
    (meadowSession.runFrames (meadowWalk [.cancel, .debugOverlay]) : StateM MeadowFiles _) =
        meadowSession.runFrames (meadowWalk []) ∧
      ∃ s, Yields (meadowSession.update { held := [.right] }) (⟨0⟩ : MeadowFiles) (.ok .idle, s)
        ⟨0⟩ ∧ s.context.player.x = 1 := by
  refine ⟨runFrames_of_agrees rfl rfl (.cons ⟨rfl, ?_⟩ (.cons ⟨rfl, ?_⟩ .nil)), ?_⟩
  · intro button hbutton
    cases button <;> first | exact ⟨rfl, rfl⟩ | cases hbutton
  · intro button hbutton
    cases button <;> first | exact ⟨rfl, rfl⟩ | cases hbutton
  · refine ⟨_, yields_run .., ?_⟩
    cbv

end Session

end

end Overworld
