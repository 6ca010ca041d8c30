import Overworld.Json.Draft
import Overworld.Text.FilePath

/-!
# Faults

What can go wrong in a field session, as causes. A fault met while something was
being done is wrapped in that task, so that the chain from the outermost task to
the innermost cause is kept; the wording of all of them is in one place.
-/

namespace Overworld

/-- What was being done when a fault arose. -/
inductive Task where
  | readFile (path : FilePath)
  | statFile (path : FilePath)
  | parseFile (path : FilePath)
  | readConfig (path : FilePath)
  | parseConfig (path : FilePath)
  | startMap (map : UInt32)
  | dumpMap (map : UInt32) (root : FilePath)
  | drawTileset (name : String) (map : UInt32)
  | drawEvent (name : String) (event : UInt32)
  | drawPlayer (name : String)
  deriving DecidableEq, Inhabited

/-- The wording of a task. -/
def Task.message : Task → String
  | .readFile path => "read " ++ path.text
  | .statFile path => "stat " ++ path.text
  | .parseFile path => "parse " ++ path.text
  | .readConfig path => "Failed to read config file " ++ path.text
  | .parseConfig path => "Failed to parse config file " ++ path.text
  | .startMap map => "load starting map " ++ toString map
  | .dumpMap map root => "load map " ++ toString map ++ " from " ++ root.text
  | .drawTileset name map => "load tileset '" ++ name ++ "' for map " ++ toString map
  | .drawEvent name event => "load character '" ++ name ++ "' for event " ++ toString event
  | .drawPlayer name => "load player character '" ++ name ++ "'"

/-- A fault. `reported` is one that the world outside words itself: the operating system, a bitmap
loader or a plugin. -/
inductive Fault where
  | reported (text : String)
  | json (defect : Json.Defect)
  | mapTooLarge (width height : UInt32)
  | tilemapRefused
  | viewportGone (id : UInt32)
  | tilemapGone (id : UInt32)
  | lookupMiss (map : UInt32) (target : String)
  | invalidTarget (map event : UInt32)
  | corrupt (table : String) (path : FilePath) (cause : Fault)
  | callTooDeep (depth limit : UInt32)
  | script (event : UInt32) (text : String)
  | during (task : Task) (cause : Fault)
  deriving DecidableEq, Inhabited

namespace Fault

/-- The wording of a fault, without its causes. -/
def message : Fault → String
  | .reported text => text
  | .json defect => "json:" ++ defect.label
  | .mapTooLarge width height =>
    "map is " ++ toString width ++ "x" ++ toString height ++ " tiles, limit is 2048 per side"
  | .tilemapRefused => "tilemap allocation refused"
  | .viewportGone id => "viewport ViewportId(" ++ toString id ++ ") is not alive"
  | .tilemapGone id => "tilemap TilemapId(" ++ toString id ++ ") is not alive"
  | .lookupMiss map target => "no event matches " ++ target ++ " on map " ++ toString map
  | .invalidTarget map event =>
    "event " ++ toString event ++ " on map " ++ toString map ++ " has nothing to execute"
  | .corrupt table path _ => "failed to reload " ++ table ++ " from " ++ path.text
  | .callTooDeep depth limit =>
    "event call depth " ++ toString depth ++ " exceeds the limit of " ++ toString limit
  | .script event text => "script error in event " ++ toString event ++ ": " ++ text
  | .during task _ => task.message

/-- The fault inside a fault. -/
def cause? : Fault → Option Fault
  | .corrupt _ _ cause | .during _ cause => some cause
  | _ => none

/-- The wordings of a fault and of its causes, outermost first. -/
def chain : Fault → List String
  | .corrupt table path cause => message (.corrupt table path cause) :: cause.chain
  | .during task cause => task.message :: cause.chain
  | other => [other.message]

/-- A wording and its causes on lines of their own, numbered if there are several. -/
def listing (message : String) (causes : List String) : String :=
  let indented (number : Nat) (cause : String) : String :=
    if causes.length ≤ 1 then "\n    " ++ cause else "\n    " ++ toString number ++ ": " ++ cause
  if causes.isEmpty then message
  else message ++ "\n\nCaused by:" ++ String.join (causes.mapIdx indented)

/-- The whole chain on one line. -/
def describe (fault : Fault) : String := String.intercalate ": " fault.chain

/-- The outermost fault of the field itself in a chain; none when all of it was reported from
outside. -/
def ofField? : Fault → Option Fault
  | .during _ cause => cause.ofField?
  | .lookupMiss map target => some (.lookupMiss map target)
  | .invalidTarget map event => some (.invalidTarget map event)
  | .corrupt table path cause => some (.corrupt table path cause)
  | .callTooDeep depth limit => some (.callTooDeep depth limit)
  | .script event text => some (.script event text)
  | _ => none

/-- The name of the kind of a fault. All that was reported from outside is of one kind. -/
def label (fault : Fault) : String :=
  match fault.ofField? with
  | some (.lookupMiss _ _) => "LookupMiss"
  | some (.invalidTarget _ _) => "InvalidTarget"
  | some (.corrupt _ _ _) => "ReloadCorruption"
  | some (.callTooDeep _ _) => "RecursionOverflow"
  | some (.script _ _) => "Script"
  | _ => "Error"

/-- Whether a fault of the field stops a frame. A missing target and one with nothing to execute
do not. -/
def isFatal (fault : Fault) : Bool :=
  match fault.ofField? with
  | none | some (.lookupMiss _ _) | some (.invalidTarget _ _) => false
  | some _ => true

end Fault

end Overworld
