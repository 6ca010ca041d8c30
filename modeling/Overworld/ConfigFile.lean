import Overworld.Config
import Overworld.Data.Source

/-!
# Settings files

Reading the settings of a session from a file. A session starts with the default
settings when its file cannot be read or is refused.
-/

namespace Overworld

/-- The settings in a file's contents. -/
def FieldConfig.decode (path : FilePath) (contents : Bytes) : Except Fault FieldConfig :=
  (Json.read FieldConfig.shape contents).mapError fun defect =>
    .during (.parseConfig path) (.json defect)

section

variable {m : Type → Type} [Monad m] [FileSystem m]

/-- Reads the settings of a file. -/
def FieldConfig.load (path : FilePath) : Reading m FieldConfig := ExceptT.mk do
  match ← FileSystem.contents path with
  | .error text => return .error (.during (.readConfig path) (.reported text))
  | .ok contents => return FieldConfig.decode path contents

/-- Reads the settings of a file, or takes the default ones. -/
def FieldConfig.loadOrDefault (path : FilePath) : m FieldConfig := do
  match ← (FieldConfig.load path).run with
  | .ok config => return config
  | .error _ => return {}

end

end Overworld
