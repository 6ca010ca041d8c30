import Overworld.Collision.Report
import Overworld.Session.Run

/-!
# The programs

The field session and the maker of collision reports, as one program that is installed
under two names. This is the only module that reaches the computer it runs on.
-/

namespace Overworld

/-- The wording of a failure of the operating system. -/
def systemMessage : IO.Error → String
  | .noFileOrDirectory _ code _ => "No such file or directory (os error " ++ toString code ++ ")"
  | .permissionDenied _ code _ => "Permission denied (os error " ++ toString code ++ ")"
  | .inappropriateType _ code _ => "Is a directory (os error " ++ toString code ++ ")"
  | other => toString other

/-- Runs an action whose failure is worded. -/
def worded {α : Type} (action : IO α) : IO (Except String α) := do
  match ← action.toBaseIO with
  | .ok a => return .ok a
  | .error e => return .error (systemMessage e)

/-- The files of the computer. -/
instance : FileSystem IO where
  contents path := worded do return (← IO.FS.readBinFile path.text).toList
  written path := worded do
    let time := (← (System.mkFilePath [path.text]).metadata).modified
    return { seconds := time.sec, nanoseconds := time.nsec.toNat }
  isFile path := do
    match ← worded (System.mkFilePath [path.text]).metadata with
    | .ok metadata => return metadata.type == .file
    | .error _ => return false
  sleep milliseconds := IO.sleep milliseconds.toUInt32

/-- The name under which report makers are installed. -/
def reportProgram : String := "collision_dump"

instance : DataSource IO := .ofFiles

/-- Makes a report. -/
def mainReport (arguments : List String) : IO UInt32 := do
  let run : ReportRun ← ReportRun.ofArguments arguments
  IO.print run.output
  if !run.errors.isEmpty then IO.eprintln run.errors
  return run.exit.toUInt32

/-- Runs a session. -/
def mainSession (arguments : List String) : IO UInt32 := do
  match CommandLine.parse arguments with
  | .error error =>
    IO.eprintln ("[cli] " ++ error.message)
    return 2
  | .ok line =>
    match ← (Session.run line : IO (Except Fault Unit)) with
    | .ok () => return 0
    | .error fault =>
      IO.eprintln ("Field session error: " ++ Fault.listing fault.message (fault.chain.drop 1))
      return 1

end Overworld

/-- The program, by the name under which it was started. -/
def main (arguments : List String) : IO UInt32 := do
  let name := toString (← IO.appPath)
  if name.endsWith Overworld.reportProgram then Overworld.mainReport arguments
  else Overworld.mainSession (name :: arguments)
