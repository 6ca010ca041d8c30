import Overworld.Data.Source
import Overworld.Data.Table
import Overworld.Record.Tables

/-!
# Loading tables and maps

A file that cannot be read, that is no JSON text of the right shape, or that holds
a map too large to be played is corrupt; the fault names its table and its path.
Tables are read one after the other, and the first corrupt one ends the load.
-/

namespace Overworld

/-- The tables of a data set. Those that the session never looks into keep their records as they
stand. -/
structure DataTables where
  actors : List Json := []
  items : List Json := []
  armors : List Json := []
  animations : List Json := []
  tilesets : List Tileset := []
  commonEvents : List CommonEvent := []
  deriving Inhabited

/-- The first common event with an id. -/
def DataTables.commonEvent? (t : DataTables) (id : UInt32) : Option CommonEvent :=
  t.commonEvents.find? (·.id = id)

/-- The records of a table file. -/
def decodeTable {α : Type} (shape : Json.Shape α) (kind : TableKind) (path : FilePath)
    (bytes : Bytes) : Except Fault (List α) :=
  match Json.read (.list shape) bytes with
  | .ok records => .ok records
  | .error defect => .error (.corrupt kind.label path (.during (.parseFile path) (.json defect)))

/-- The name that a map file has in faults. -/
def mapLabel : String := "Map"

/-- The map of a map file. -/
def decodeMap (path : FilePath) (bytes : Bytes) : Except Fault MapRecord :=
  match Json.read MapRecord.shape bytes with
  | .error defect => .error (.corrupt mapLabel path (.during (.parseFile path) (.json defect)))
  | .ok record =>
    if record.fits then .ok record
    else .error (.corrupt mapLabel path (.mapTooLarge record.width record.height))

section

variable {m : Type → Type} [Monad m] [DataSource m]

/-- Reads a file and takes what `decode` makes of it; a file that cannot be read is corrupt. -/
def loadFile {α : Type} (label : String) (path : FilePath) (decode : Bytes → Except Fault α) :
    Reading m α := ExceptT.mk do
  match ← DataSource.read path with
  | .error fault => return .error (.corrupt label path fault)
  | .ok bytes => return decode bytes

/-- Loads one table. -/
def loadTable {α : Type} (layout : DataLayout) (shape : Json.Shape α) (kind : TableKind) :
    Reading m (List α) :=
  let path := layout.tablePath kind
  loadFile kind.label path (decodeTable shape kind path)

/-- Loads a map. -/
def loadMap (layout : DataLayout) (map : UInt32) : Reading m MapRecord :=
  let path := layout.mapPath map
  loadFile mapLabel path (decodeMap path)

/-- Loads all tables. -/
def DataTables.load (layout : DataLayout) : Reading m DataTables := do
  let actors ← loadTable layout .value .actors
  let items ← loadTable layout .value .items
  let armors ← loadTable layout .value .armors
  let animations ← loadTable layout .value .animations
  let tilesets ← loadTable layout Tileset.shape .tilesets
  let commonEvents ← loadTable layout CommonEvent.shape .commonEvents
  return { actors, items, armors, animations, tilesets, commonEvents }

end

end Overworld
