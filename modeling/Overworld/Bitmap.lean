import Overworld.Fault

/-!
# Bitmaps

Bitmaps come from a loader outside and are kept once loaded. Hues are angles, so
requests that differ by full turns share a bitmap. A name that starts with an
exclamation mark is a placeholder, drawn as one empty pixel, and so is no name.
-/

namespace Overworld

/-- A loaded bitmap. -/
structure Bitmap where
  width : Nat
  height : Nat
  source : String
  deriving DecidableEq, Inhabited

/-- The bitmap of placeholders. -/
def Bitmap.placeholder : Bitmap := { width := 1, height := 1, source := "" }

/-- Bitmaps loaded in the course of a computation of `m`. -/
class BitmapLoader (m : Type → Type) where
  /-- Loads a bitmap by folder, file name and hue. -/
  load : String → String → Nat → m (Except Fault Bitmap)

/-- What a bitmap is kept under. -/
structure BitmapKey where
  folder : String
  file : String
  hue : Nat
  deriving DecidableEq, Inhabited

namespace BitmapKey

/-- A hue in the range of a full turn. -/
def wrapHue (hue : Int) : Nat := (hue % 360).toNat

/-- Whether a name stands for no file. -/
def isPlaceholder (file : String) : Bool := file.isEmpty || file.startsWith "!"

/-- The key of a request; placeholders have none. -/
def ofRequest? (folder file : String) (hue : Int) : Option BitmapKey :=
  if isPlaceholder file then none else some { folder, file, hue := wrapHue hue }

end BitmapKey

/-- The bitmaps kept, latest first. -/
structure BitmapCache where
  entries : List (BitmapKey × Bitmap) := []
  deriving DecidableEq, Inhabited

namespace BitmapCache

/-- The number of bitmaps kept. -/
def size (c : BitmapCache) : Nat := c.entries.length

/-- Forgets every bitmap. -/
def clear (_ : BitmapCache) : BitmapCache := {}

/-- The bitmap kept under a key. -/
def get? (c : BitmapCache) (key : BitmapKey) : Option Bitmap := c.entries.lookup key

/-- Keeps a bitmap. -/
def insert (c : BitmapCache) (key : BitmapKey) (bitmap : Bitmap) : BitmapCache :=
  { entries := (key, bitmap) :: c.entries }

/-- Answers a request, from what is kept if possible. What the loader gives is kept, a failure is
not. -/
def load {m : Type → Type} [Monad m] [BitmapLoader m] (c : BitmapCache) (folder file : String)
    (hue : Int) : m (Except Fault Bitmap × BitmapCache) :=
  match BitmapKey.ofRequest? folder file hue with
  | none => return (.ok .placeholder, c)
  | some key =>
    match c.get? key with
    | some bitmap => return (.ok bitmap, c)
    | none => do
      match ← BitmapLoader.load key.folder key.file key.hue with
      | .error fault => return (.error fault, c)
      | .ok bitmap => return (.ok bitmap, c.insert key bitmap)

end BitmapCache

end Overworld
