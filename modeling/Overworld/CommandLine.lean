import Overworld.Config
import Overworld.Text.Integer

/-!
# Command lines

The flags of a field session. Every flag takes a value, taken as it stands, and of
repeated flags the last counts.
-/

namespace Overworld

/-- What a command line sets. -/
structure CommandLine where
  config : Option FilePath := none
  data : Option FilePath := none
  frames : Option Nat := none
  graceMs : Option Nat := none
  maxDepth : Option UInt32 := none
  debug : Option Bool := none
  deriving DecidableEq, Inhabited

/-- A flag whose value is a number. -/
inductive NumberFlag where
  | frames
  | graceMs
  | maxDepth
  deriving DecidableEq, Inhabited

/-- What a number flag counts. -/
def NumberFlag.noun : NumberFlag → String
  | .frames => "frame count"
  | .graceMs => "grace delay"
  | .maxDepth => "max depth"

/-- Why a command line is refused. -/
inductive CommandLineError where
  | notAFlag (argument : String)
  | missingValue (flag : String)
  | badNumber (flag : NumberFlag) (value : String) (cause : Text.IntegerError)
  | badSwitch (flag value : String)
  | unknownFlag (flag : String)
  deriving DecidableEq, Inhabited

/-- The wording of an error. -/
def CommandLineError.message : CommandLineError → String
  | .notAFlag argument =>
    "Unexpected argument '" ++ argument ++ "'. Flags take the form --name value."
  | .missingValue flag => "Expected a value after '" ++ flag ++ "'"
  | .badNumber flag value _ => "Invalid " ++ flag.noun ++ " '" ++ value ++ "'"
  | .badSwitch flag value =>
    "Invalid " ++ flag ++ " value '" ++ value ++ "'. Use on/off or true/false."
  | .unknownFlag flag =>
    "Unknown flag '" ++ flag ++ "'. Supported flags: " ++
      "--config, --data, --frames, --grace-ms, --max-depth, --debug."

/-- The wordings of the causes of an error. -/
def CommandLineError.causes : CommandLineError → List String
  | .badNumber _ _ cause => [cause.message]
  | _ => []

namespace CommandLine

/-- The frames that a session runs when nothing else is said. -/
def defaultFrames : Nat := 600

/-- Reads a number below a bound. -/
def number (flag : NumberFlag) (bound : Nat) (value : String) : Except CommandLineError Nat :=
  (Text.natural bound value).mapError (.badNumber flag value)

/-- Reads a switch; the case of its ASCII letters does not matter. -/
def switch (flag value : String) : Except CommandLineError Bool :=
  let value := value.toLower
  if value ∈ ["1", "true", "on", "yes"] then .ok true
  else if value ∈ ["0", "false", "off", "no"] then .ok false
  else .error (.badSwitch flag value)

/-- Sets one flag. -/
def set (c : CommandLine) (flag value : String) : Except CommandLineError CommandLine :=
  match flag with
  | "--config" => .ok { c with config := some ⟨value⟩ }
  | "--data" => .ok { c with data := some ⟨value⟩ }
  | "--frames" => do
    let n ← number .frames UInt64.size value
    .ok { c with frames := some n }
  | "--grace-ms" => do
    let n ← number .graceMs UInt64.size value
    .ok { c with graceMs := some n }
  | "--max-depth" => do
    let n ← number .maxDepth UInt32.size value
    .ok { c with maxDepth := some (UInt32.ofNat n) }
  | "--debug" => do
    let on ← switch "debug" value
    .ok { c with debug := some on }
  | _ => .error (.unknownFlag flag)

/-- Reads flags on top of what is set already. -/
def parseFrom (c : CommandLine) : List String → Except CommandLineError CommandLine
  | [] => .ok c
  | [flag] => if flag.startsWith "--" then .error (.missingValue flag) else .error (.notAFlag flag)
  | flag :: value :: rest =>
    if flag.startsWith "--" then do
      let c ← c.set flag value
      parseFrom c rest
    else .error (.notAFlag flag)

/-- Reads a command line, whose first argument is the name of the program. -/
def parse (arguments : List String) : Except CommandLineError CommandLine :=
  parseFrom {} (arguments.drop 1)

/-- The number of frames to run. -/
def frameCount (c : CommandLine) : Nat := c.frames.getD defaultFrames

/-- The settings that the command line overrides. -/
def overrides (c : CommandLine) : ConfigOverrides :=
  { dataRoot := c.data, graceMs := c.graceMs, maxDepth := c.maxDepth, debug := c.debug }

end CommandLine

end Overworld
