import Overworld.Data.Source

/-!
# File trees

Files held in memory, with their directories and the times of their last writes. Over a
tree, everything that reads files is a function. Paths are followed part by part, and
failures are worded as an operating system words them.
-/

namespace Overworld

/-- Files in memory. Times are kept also for names that have no file at the moment. -/
structure FileTree where
  files : List (List String × Bytes) := []
  directories : List (List String) := []
  stamps : List (List String × Int) := []
  deriving Inhabited

/-- What a path leads to. -/
inductive FileNode where
  | file (name : List String) (contents : Bytes)
  | directory
  deriving Inhabited

namespace FileTree

/-- The wording of a path that leads nowhere. -/
def noSuchFile : String := "No such file or directory (os error 2)"

/-- The wording of a path that goes on behind a file. -/
def notADirectory : String := "Not a directory (os error 20)"

/-- The wording of reading a directory. -/
def isADirectory : String := "Is a directory (os error 21)"

/-- The wording of a path with a part, or as a whole, beyond the lengths that paths may have. -/
def nameTooLong : String := "File name too long (os error 36)"

/-- The wording of a path that holds the character which ends paths. -/
def holdsEnd : String := "file name contained an unexpected NUL byte"

/-- The directory or file that a part of a path leads to from a directory. -/
def along (here : List String) (part : String) : List String :=
  if part = "" ∨ part = "." then here else if part = ".." then here.dropLast else here ++ [part]

/-- The places that the parts of a path lead through, the last one first. -/
def placesOf (path : FilePath) : List (List String) :=
  (path.text.splitOn "/").foldl (fun seen part => along (seen.headD []) part :: seen) []

/-- The name of a file: the parts that a path leads through. -/
def nameOf (path : FilePath) : List String := (placesOf path).headD []

/-- Follows the parts of a path from a directory. -/
def follow (t : FileTree) (here : List String) : List String → Except String FileNode
  | [] => .ok .directory
  | part :: rest =>
    if part = "" ∨ part = "." then t.follow here rest
    else if part = ".." then t.follow here.dropLast rest
    else if 255 < part.utf8ByteSize then .error nameTooLong
    else
      let name := here ++ [part]
      match t.files.lookup name with
      | some contents =>
        if rest.isEmpty then .ok (.file name contents) else .error notADirectory
      | none => if name ∈ t.directories then t.follow name rest else .error noSuchFile

/-- What a path leads to from the root of the tree; absolute paths lead out of it. -/
def find (t : FileTree) (path : FilePath) : Except String FileNode :=
  if path.text.contains '\x00' then .error holdsEnd
  else if 4096 ≤ path.text.utf8ByteSize then .error nameTooLong
  else if path.text.isEmpty ∨ path.text.startsWith "/" then .error noSuchFile
  else t.follow [] (path.text.splitOn "/")

/-- The contents of a file. -/
def contents (t : FileTree) (path : FilePath) : Except String Bytes :=
  match t.find path with
  | .ok (.file _ contents) => .ok contents
  | .ok .directory => .error isADirectory
  | .error text => .error text

/-- The time of the last write to a file. -/
def written (t : FileTree) (path : FilePath) : Except String Stamp :=
  match t.find path with
  | .ok (.file name _) => .ok { seconds := (t.stamps.lookup name).getD 0 }
  | .ok .directory => .ok { seconds := 0 }
  | .error text => .error text

/-- Whether a path leads to a file. -/
def isFile (t : FileTree) (path : FilePath) : Bool := (t.contents path).isOk

/-- Adds a directory and those it is in. -/
def addDirectory (t : FileTree) (name : List String) : FileTree :=
  { t with directories :=
      (List.range name.length).map (fun n => name.take (n + 1)) ++ t.directories }

/-- Writes a file, with the directories it is in. Its time stays as it is. -/
def write (t : FileTree) (path : FilePath) (contents : Bytes) : FileTree :=
  let name := nameOf path
  let t := (placesOf path).tail.foldl addDirectory t
  { t with files := (name, contents) :: t.files.filter (·.1 ≠ name) }

/-- Removes a file. -/
def remove (t : FileTree) (path : FilePath) : FileTree :=
  { t with files := t.files.filter (·.1 ≠ nameOf path) }

/-- Sets the time of the last write to a file. -/
def touch (t : FileTree) (path : FilePath) (seconds : Int) : FileTree :=
  { t with stamps := (nameOf path, seconds) :: t.stamps.filter (·.1 ≠ nameOf path) }

end FileTree

instance : FileSystem (StateM FileTree) where
  contents path := return (← get).contents path
  written path := return (← get).written path
  isFile path := return (← get).isFile path
  sleep _ := return ()

end Overworld
