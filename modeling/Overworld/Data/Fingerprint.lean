import Overworld.Data.Source
import Overworld.Data.Table
import Overworld.Digest.Blake3

/-!
# Fingerprints

The fingerprint of a data set is the digest of one byte sequence made of all its
files. Tables stand in it under their names and with their lengths in front, so
that no two data sets give the same sequence; the map, which is last, needs none.
-/

namespace Overworld

/-- The digest of a data set's bytes. -/
structure Fingerprint where
  words : Array UInt32
  deriving DecidableEq, Inhabited

/-- A number as eight bytes, lowest first. -/
def littleEndian64 (n : Nat) : Bytes := (List.range 8).map fun i => UInt8.ofNat (n >>> (8 * i))

/-- The bytes of a name. -/
def labelBytes (label : String) : Bytes := label.toUTF8.toList

/-- What a table adds to the sequence. -/
def tableStream (kind : TableKind) (contents : Bytes) : Bytes :=
  labelBytes kind.label ++ littleEndian64 contents.length ++ contents

/-- What the map adds to the sequence. -/
def mapStream (contents : Bytes) : Bytes := labelBytes "Map" ++ contents

/-- The digest of a byte sequence. -/
def Fingerprint.ofBytes (stream : Bytes) : Fingerprint := ⟨Blake3.digest stream⟩

/-- The digest in hexadecimal digits. -/
def Fingerprint.hex (f : Fingerprint) : String := Blake3.hexWords f.words

section

variable {m : Type → Type} [Monad m] [DataSource m]

/-- Reads the tables in order and appends what they add to the sequence. -/
def tablesStream (layout : DataLayout) (stream : Bytes) : List TableKind → Reading m Bytes
  | [] => return stream
  | kind :: rest => do
    let contents ← ExceptT.mk (DataSource.read (layout.tablePath kind))
    tablesStream layout (stream ++ tableStream kind contents) rest

/-- The byte sequence of a data set; map 0 has no file. -/
def dataStream (layout : DataLayout) (map : UInt32) : Reading m Bytes := do
  let stream ← tablesStream layout [] TableKind.all
  if map = 0 then return stream
  else
    let contents ← ExceptT.mk (DataSource.read (layout.mapPath map))
    return stream ++ mapStream contents

/-- The fingerprint of a data set. -/
def fingerprint (layout : DataLayout) (map : UInt32) : Reading m Fingerprint := do
  let stream ← dataStream layout map
  return Fingerprint.ofBytes stream

end

end Overworld
