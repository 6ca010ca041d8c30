/-!
# File paths

Paths are kept as they are written. Joining puts one slash between the two parts
unless there is one already, and an absolute second part stands for itself.
-/

namespace Overworld

/-- A file path as written. -/
structure FilePath where
  text : String
  deriving DecidableEq, Inhabited, Repr

namespace FilePath

/-- The path of `part` seen from the directory `base`. -/
def join (base : FilePath) (part : String) : FilePath :=
  if part.startsWith "/" ∨ base.text.isEmpty then ⟨part⟩
  else if base.text.endsWith "/" then ⟨base.text ++ part⟩
  else ⟨base.text ++ "/" ++ part⟩

end FilePath

end Overworld
