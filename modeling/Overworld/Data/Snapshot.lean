import Overworld.Data.Tables
import Overworld.Map.FieldMap

/-!
# Snapshots

Everything that is loaded: the tables and the live map. A snapshot is built as a
whole beside the one in use.
-/

namespace Overworld

/-- The loaded tables and the live map. -/
structure Snapshot where
  tables : DataTables := {}
  map : FieldMap := {}
  deriving Inhabited

/-- Loads a data set. Map 0 is the empty map and has no file. -/
def Snapshot.load {m : Type → Type} [Monad m] [DataSource m] (layout : DataLayout) (map : UInt32)
    (switches : SelfSwitches) : Reading m Snapshot := do
  let tables ← DataTables.load layout
  if map = 0 then return { tables }
  else
    let record ← loadMap layout map
    return { tables, map := FieldMap.ofRecord map record tables.tilesets switches }

end Overworld
