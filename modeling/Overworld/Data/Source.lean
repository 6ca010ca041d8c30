import Overworld.Fault

/-!
# Data sources

The world outside as a field session sees it: files that can be read and that
carry a modification time. Nothing is assumed about the answers: a file may change
between any two of them.
-/

namespace Overworld

/-- The contents of a file. -/
abbrev Bytes : Type := List UInt8

/-- When a file was last written. -/
structure Stamp where
  seconds : Int
  nanoseconds : Nat := 0
  deriving DecidableEq, Inhabited

/-- Files of a data set, read in the course of a computation of `m`. -/
class DataSource (m : Type → Type) where
  /-- Reads a file. -/
  read : FilePath → m (Except Fault Bytes)
  /-- The time of the last write to a file. -/
  modified : FilePath → m (Except Fault Stamp)
  /-- Starts observing the changes of a directory, if that is possible. -/
  observe : FilePath → m Bool
  /-- Whether a change has been observed since this was last asked. -/
  noticed : m Bool
  /-- Lets some milliseconds pass. -/
  pause : Nat → m Unit

/-- A computation that reads files and may fail. -/
abbrev Reading (m : Type → Type) (α : Type) : Type := ExceptT Fault m α

/-- The files of a computer. Failures come in the words of the operating system. -/
class FileSystem (m : Type → Type) where
  /-- Reads a file. -/
  contents : FilePath → m (Except String Bytes)
  /-- The time of the last write to a file. -/
  written : FilePath → m (Except String Stamp)
  /-- Whether there is a file, and not a directory, at a path. -/
  isFile : FilePath → m Bool
  /-- Lets some milliseconds pass. -/
  sleep : Nat → m Unit

/-- Data sets kept as files of a computer. Their changes are not observed. -/
@[reducible] def DataSource.ofFiles {m : Type → Type} [Monad m] [FileSystem m] : DataSource m where
  read path := do
    return (← FileSystem.contents path).mapError fun text =>
      .during (.readFile path) (.reported text)
  modified path := do
    return (← FileSystem.written path).mapError fun text =>
      .during (.statFile path) (.reported text)
  observe _ := return false
  noticed := return true
  pause := FileSystem.sleep

end Overworld
