import Overworld.Config
import Overworld.Data.Source

/-!
# Change probes

Whether a tick has to look at the modification time of the marker table: always, or only
after a change of the data directory has been observed.
-/

namespace Overworld

/-- How a watcher learns that it should look. -/
inductive ChangeProbe where
  | poll
  | notify
  deriving DecidableEq, Inhabited

namespace ChangeProbe

variable {m : Type → Type} [Monad m] [DataSource m]

/-- The probe of a watch mode. Without a directory that can be observed it polls. -/
def ofMode (mode : WatchMode) (root : Option FilePath) : m ChangeProbe :=
  match mode, root with
  | .notify, some root => do
    if ← DataSource.observe root then return .notify else return .poll
  | _, _ => return .poll

/-- Whether to look now. -/
def shouldLook (p : ChangeProbe) : m Bool :=
  match p with
  | .poll => return true
  | .notify => DataSource.noticed

end ChangeProbe

end Overworld
