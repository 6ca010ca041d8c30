import Overworld.Text.FilePath

/-!
# The parts of a data set

A data set is six tables and any number of maps, each in a file of its own. A
layout says where the files are.
-/

namespace Overworld

/-- A table of the data set. -/
inductive TableKind where
  | actors
  | items
  | armors
  | animations
  | tilesets
  | commonEvents
  deriving DecidableEq, Inhabited, Repr

namespace TableKind

/-- The tables in the order in which they are read. -/
def all : List TableKind := [.actors, .items, .armors, .animations, .tilesets, .commonEvents]

/-- Every table is read. -/
theorem mem_all (kind : TableKind) : kind ∈ all := by cases kind <;> decide

/-- The name of a table. -/
def label : TableKind → String
  | .actors => "Actors"
  | .items => "Items"
  | .armors => "Armors"
  | .animations => "Animations"
  | .tilesets => "Tilesets"
  | .commonEvents => "CommonEvents"

/-- The file of a table. -/
def fileName (kind : TableKind) : String := kind.label ++ ".json"

/-- The table with a name, whatever the case of its ASCII letters. -/
def ofLabel? (label : String) : Option TableKind :=
  all.find? fun kind => kind.label.toLower = label.toLower

end TableKind

/-- Where the files of a data set are, and the directory that a file watcher may observe. -/
structure DataLayout where
  tablePath : TableKind → FilePath
  mapPath : UInt32 → FilePath
  watchRoot : Option FilePath

/-- The file of a map: its number with three digits at least. -/
def mapFileName (map : UInt32) : String :=
  let digits := toString map.toNat
  "Map" ++ String.ofList (List.replicate (3 - digits.length) '0') ++ digits ++ ".json"

/-- A data set in one directory. -/
def DataLayout.inDirectory (root : FilePath) : DataLayout where
  tablePath kind := root.join kind.fileName
  mapPath map := root.join (mapFileName map)
  watchRoot := some root

end Overworld
