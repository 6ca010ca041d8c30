import Overworld.Collision.Toggle
import Overworld.Reload.Watcher

/-!
# The plugins of a session

A session has two kinds of plugins of its own, the reload watcher and the collision
overlay, and takes further ones from its host.
-/

namespace Overworld

/-- A plugin of a session whose host has plugins with states `ε`. -/
inductive Extension (ε : Type) where
  | reload (watcher : ReloadWatcher)
  | overlay (overlay : Overlay)
  | custom (plugin : ε)
  deriving Inhabited

namespace Extension

variable {ε : Type}

/-- What a hook of a part leads to, for the whole. -/
def lift {α : Type} (wrap : α → Extension ε) (h : Hooked α) : Hooked (Extension ε) :=
  { result := h.result, plugin := wrap h.plugin, context := h.context }

/-- The watcher of an extension that is one. -/
def watcher? : Extension ε → Option ReloadWatcher
  | reload w => some w
  | _ => none

/-- The overlay of an extension that is one. -/
def overlay? : Extension ε → Option Overlay
  | overlay o => some o
  | _ => none

/-- Changes an extension that is an overlay. -/
def mapOverlay (f : Overlay → Overlay) : Extension ε → Extension ε
  | overlay o => overlay (f o)
  | other => other

/-- The name of an extension; `custom` names those of the host. -/
def label (custom : ε → String) : Extension ε → String
  | reload _ => "reload_watcher"
  | overlay _ => "collision_overlay"
  | .custom plugin => custom plugin

instance {m : Type → Type} [Monad m] [DataSource m] [BitmapLoader m] [Plugin m ε] :
    Plugin m (Extension ε) where
  build
    | reload w, c => lift reload <$> w.onBuild c
    | overlay o, c => return { plugin := overlay o, context := c }
    | custom p, c => lift custom <$> Plugin.build p c
  update
    | reload w, _, c => lift reload <$> w.onUpdate c
    | overlay o, input, c => return lift overlay (o.onUpdate input c)
    | custom p, input, c => lift custom <$> Plugin.update p input c
  onTransfer
    | reload w, _, _, c => return { plugin := reload w, context := c }
    | overlay o, _, _, c => return lift overlay (o.onTransfer c)
    | custom p, source, target, c => lift custom <$> Plugin.onTransfer p source target c

end Extension

/-- A host without plugins of its own. -/
instance {m : Type → Type} : Plugin m Empty where
  build p := nomatch p
  update p := nomatch p
  onTransfer p := nomatch p

end Overworld
