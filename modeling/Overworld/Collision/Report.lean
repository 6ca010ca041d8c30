import Overworld.Collision.Grid
import Overworld.Data.Snapshot
import Overworld.Json.Writer
import Overworld.Text.Blank
import Overworld.Text.Integer

/-!
# Collision reports

The collision grid of a map of a data set, written for a reader or for a program. A
report is asked for by a command line of its own.
-/

namespace Overworld

/-- What a report is asked for. -/
structure ReportRequest where
  root : FilePath := ⟨"Data"⟩
  map : UInt32 := 1
  playerX : Int := -1
  playerY : Int := -1
  asJson : Bool := false
  wantsHelp : Bool := false
  deriving DecidableEq, Inhabited

/-- Why a request is refused. -/
inductive ReportError where
  | missingValue (flag : String)
  | badMap (value : String) (cause : Text.IntegerError)
  | badPlace
  | badCoordinate (axis value : String) (cause : Text.IntegerError)
  | unknownArgument (argument : String)
  deriving DecidableEq, Inhabited

/-- The wording of an error. -/
def ReportError.message : ReportError → String
  | .missingValue flag => "Expected a value after '" ++ flag ++ "'"
  | .badMap value _ => "Invalid map id '" ++ value ++ "'"
  | .badPlace => "Expected --player X,Y"
  | .badCoordinate axis value _ => "Invalid " ++ axis ++ " '" ++ value ++ "'"
  | .unknownArgument argument => "Unknown argument '" ++ argument ++ "'"

/-- The wordings of the causes of an error. -/
def ReportError.causes : ReportError → List String
  | .badMap _ cause | .badCoordinate _ _ cause => [cause.message]
  | _ => []

namespace ReportRequest

/-- Reads one coordinate, which may have blanks around it. -/
def coordinate (axis value : String) : Except ReportError Int :=
  (Text.integer (-2147483648) 2147483647 (Text.trim value)).mapError (.badCoordinate axis value)

/-- Reads two coordinates with a comma between them. -/
def place (r : ReportRequest) (value : String) : Except ReportError ReportRequest := do
  let cs := value.toList
  let x := String.ofList (cs.takeWhile (· ≠ ','))
  match cs.dropWhile (· ≠ ',') with
  | [] => .error .badPlace
  | _ :: rest =>
    let playerX ← coordinate "x" x
    let playerY ← coordinate "y" (String.ofList rest)
    return { r with playerX, playerY }

/-- Reads arguments on top of what is asked for already. -/
def parseFrom (r : ReportRequest) : List String → Except ReportError ReportRequest
  | [] => .ok r
  | "--help" :: rest | "-h" :: rest => parseFrom { r with wantsHelp := true } rest
  | "--json" :: rest => parseFrom { r with asJson := true } rest
  | ["--data"] => .error (.missingValue "--data")
  | ["--map"] => .error (.missingValue "--map")
  | ["--player"] => .error (.missingValue "--player")
  | "--data" :: value :: rest => parseFrom { r with root := ⟨value⟩ } rest
  | "--map" :: value :: rest => do
    let map ← (Text.natural UInt32.size value).mapError (.badMap value)
    parseFrom { r with map := UInt32.ofNat map } rest
  | "--player" :: value :: rest => do
    let r ← r.place value
    parseFrom r rest
  | argument :: _ => .error (.unknownArgument argument)

/-- Reads the arguments of a request. -/
def parse (arguments : List String) : Except ReportError ReportRequest := parseFrom {} arguments

/-- How to ask for a report. -/
def help : String :=
  "Usage: collision_dump [--data DIR] [--map ID] [--player X,Y] [--json]\n" ++
    "Prints the blocked-direction mask of every tile. '.' is open; otherwise a hex digit\n" ++
    "with bits down=1 left=2 right=4 up=8.\n"

end ReportRequest

/-- The grid of a map as a JSON value. -/
def CollisionGrid.toJson (g : CollisionGrid) (map : UInt32) : Json :=
  .obj [("blocked_tiles", .nat g.blockedTiles), ("cells", .arr (g.cells.toList.map .nat)),
    ("height", .nat g.height), ("map_id", .nat map.toNat), ("width", .nat g.width)]

/-- The grid of a map as a report. -/
def CollisionGrid.report (g : CollisionGrid) (map : UInt32) (asJson : Bool) : String :=
  if asJson then Json.pretty 0 (g.toJson map) ++ "\n"
  else
    g.toText ++ "map " ++ toString map ++ ": " ++ toString g.blockedTiles ++ " blocked tiles\n"

/-- Makes the report that a request asks for. -/
def ReportRequest.make {m : Type → Type} [Monad m] [DataSource m] (r : ReportRequest) :
    m (Except Fault String) := do
  if r.wantsHelp then return .ok help
  match ← (Snapshot.load (.inDirectory r.root) r.map {}).run with
  | .error fault => return .error (.during (.dumpMap r.map r.root) fault)
  | .ok snapshot =>
    let player : Player := { x := r.playerX, y := r.playerY }
    return (playerGrid snapshot.map player).1.map (·.report r.map r.asJson)

/-- What the program that makes reports prints, and its exit code. -/
structure ReportRun where
  exit : Nat := 0
  output : String := ""
  errors : String := ""
  deriving DecidableEq, Inhabited

/-- The run of a request that is refused or comes to nothing. -/
def ReportRun.failed (message : String) (causes : List String) : ReportRun :=
  { exit := 1, errors := "collision_dump error: " ++ Fault.listing message causes }

/-- Runs the program that makes reports. -/
def ReportRun.ofArguments {m : Type → Type} [Monad m] [DataSource m] (arguments : List String) :
    m ReportRun :=
  match ReportRequest.parse arguments with
  | .error error => return .failed error.message error.causes
  | .ok request => do
    match ← request.make with
    | .error fault => return .failed fault.message (fault.chain.drop 1)
    | .ok output => return { output }

end Overworld
