import Overworld.CommandLine
import Overworld.ConfigFile
import Overworld.DebugMode
import Overworld.Session.Update

/-!
# Running a session

A session without a display, as a command line asks for it: the settings file with the
overrides on top, the session's own plugins, and a number of frames. The first fault
ends it.
-/

namespace Overworld

/-- The settings file when the command line names none. -/
def defaultConfigPath : FilePath := ⟨"config/field.json"⟩

/-- The file with the key bindings. -/
def bindingsPath : FilePath := ⟨"config/input.json"⟩

/-- The time of a frame in milliseconds. -/
def frameMs : Nat := 16

/-- A loader that gives every file a bitmap of the size of a tile. -/
@[reducible] def BitmapLoader.blank {m : Type → Type} [Monad m] : BitmapLoader m where
  load folder file _ :=
    let side := tileSize.toNat
    return .ok { width := side, height := side, source := folder ++ "/" ++ file }

namespace Session

variable {m : Type → Type} [Monad m]

/-- Plays a number of frames without letting any input in. -/
def playFrames {ε : Type} [BitmapLoader m] [DataSource m] [Plugin m ε] (input : Input) :
    Nat → Session ε → m (Except Fault Unit)
  | 0, _ => return .ok ()
  | frames + 1, s => do
    match ← s.update input with
    | (.error fault, _) => return .error fault
    | (.ok _, s) =>
      DataSource.pause frameMs
      playFrames input.clearFrame frames s.takeNotices.2

variable [FileSystem m]

/-- The settings of a command line: those of its file, with its own on top. -/
def settings (line : CommandLine) : m FieldConfig := do
  let config ← FieldConfig.loadOrDefault (line.config.getD defaultConfigPath)
  return config.override line.overrides

/-- The key bindings of the working directory. -/
def bindings : m Bindings := do
  match ← FileSystem.contents bindingsPath with
  | .ok contents => return Bindings.ofBytes contents
  | .error _ => return {}

/-- Runs the session that a command line asks for, on given sources of data and bitmaps. -/
def runOn [DataSource m] [BitmapLoader m] (line : CommandLine) : m (Except Fault Unit) := do
  let config ← settings line
  let debug ← config.debug.detect ⟨"."⟩
  match ← Session.start config (.inDirectory config.data.root) debug with
  | .error fault => return .error fault
  | .ok (s : Session Empty) =>
    match ← s.withOwnPlugins with
    | (.error fault, _) => return .error fault
    | (.ok (), s) =>
      let bindings ← bindings
      playFrames { bindings } line.frameCount s

/-- Runs the session that a command line asks for, on the files of the computer. -/
def run (line : CommandLine) : m (Except Fault Unit) :=
  letI : DataSource m := .ofFiles
  letI : BitmapLoader m := .blank
  runOn line

end Session

end Overworld
