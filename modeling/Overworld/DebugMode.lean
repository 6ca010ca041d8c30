import Overworld.Config
import Overworld.Data.Source

/-!
# Debug mode

Debug mode makes the collision overlay and walking through obstacles available. An
explicit setting decides; without one a marker file in the working directory
turns it on.
-/

namespace Overworld

/-- Whether debug mode is on for a session in this directory. -/
def DebugConfig.detect {m : Type → Type} [Monad m] [FileSystem m] (c : DebugConfig)
    (directory : FilePath) : m Bool :=
  match c.enabled with
  | some enabled => return enabled
  | none => FileSystem.isFile (directory.join c.markerFile)

end Overworld
