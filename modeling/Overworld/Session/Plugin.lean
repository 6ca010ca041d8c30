import Overworld.Input.State
import Overworld.Session.Context

/-!
# Plugins

Plugins extend a session with hooks that run when they are registered, once a frame and
before a transfer. All hooks of a kind run, in the order of registration, whatever the
earlier ones returned. A failure is passed on only if it is fatal, and only the first
one.
-/

namespace Overworld

/-- What a hook leads to. -/
structure Hooked (π : Type) where
  result : Except Fault Unit := .ok ()
  plugin : π
  context : FieldContext

/-- The hooks of plugins with states `π`. -/
class Plugin (m : Type → Type) (π : Type) where
  /-- Runs when the plugin is registered. -/
  build : π → FieldContext → m (Hooked π)
  /-- Runs every frame. -/
  update : π → Input → FieldContext → m (Hooked π)
  /-- Runs before the player leaves one map for another, while the old one is still loaded. -/
  onTransfer : π → UInt32 → UInt32 → FieldContext → m (Hooked π)

/-- The hooks of a run of plugins: the first fatal failure, the plugins and the context. -/
structure HookRun (π : Type) where
  result : Except Fault Unit := .ok ()
  plugins : List π
  context : FieldContext

namespace Plugin

variable {m : Type → Type} [Monad m] {π : Type}

/-- The failure that counts of a plugin's and those of the plugins behind it. -/
def firstFatal (own rest : Except Fault Unit) : Except Fault Unit :=
  match own with
  | .error fault => if fault.isFatal then .error fault else rest
  | .ok () => rest

/-- Runs a hook of every plugin. -/
def runAll (hook : π → FieldContext → m (Hooked π)) (context : FieldContext) :
    List π → m (HookRun π)
  | [] => return { plugins := [], context }
  | plugin :: rest => do
    let hooked ← hook plugin context
    let run ← runAll hook hooked.context rest
    return { run with
      result := firstFatal hooked.result run.result
      plugins := hooked.plugin :: run.plugins }

/-- Registers a plugin behind the others, unless its hook fails. -/
def register [Plugin m π] (plugins : List π) (plugin : π) (context : FieldContext) :
    m (HookRun π) := do
  let hooked ← Plugin.build plugin context
  match hooked.result with
  | .ok () => return { plugins := plugins ++ [hooked.plugin], context := hooked.context }
  | .error fault => return { result := .error fault, plugins, context := hooked.context }

/-- Runs the frame hooks. -/
def updateAll [Plugin m π] (plugins : List π) (input : Input) (context : FieldContext) :
    m (HookRun π) :=
  runAll (fun plugin context => Plugin.update plugin input context) context plugins

/-- Runs the transfer hooks. -/
def transferAll [Plugin m π] (plugins : List π) (source target : UInt32)
    (context : FieldContext) : m (HookRun π) :=
  runAll (fun plugin context => Plugin.onTransfer plugin source target context) context plugins

end Plugin

end Overworld
