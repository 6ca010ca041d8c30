/-!
# BLAKE3

The 256-bit digest of a byte sequence. The input is cut into chunks of 1024 bytes,
each a chain of 64-byte blocks. Chunks are the leaves of a binary tree whose left
subtrees are full, and the digest is the first half of the compressed root.
-/

namespace Overworld.Blake3

/-- The initial words of a chaining value. -/
def initial : Array UInt32 :=
  #[0x6A09E667, 0xBB67AE85, 0x3C6EF372, 0xA54FF53A, 0x510E527F, 0x9B05688C, 0x1F83D9AB, 0x5BE0CD19]

/-- The order of the message words in the next round. -/
def permutation : Array Nat := #[2, 6, 3, 10, 7, 0, 4, 13, 1, 11, 12, 5, 9, 14, 15, 8]

/-- The first block of a chunk. -/
def chunkStart : UInt32 := 1

/-- The last block of a chunk. -/
def chunkEnd : UInt32 := 2

/-- An inner node. -/
def parent : UInt32 := 4

/-- The root. -/
def root : UInt32 := 8

/-- Rotates a word to the right. -/
def rotate (w : UInt32) (n : UInt32) : UInt32 := (w >>> n) ||| (w <<< (32 - n))

/-- Mixes two message words into four words of the state. -/
def mix (v : Array UInt32) (a b c d : Nat) (x y : UInt32) : Array UInt32 :=
  let va := v.getD a 0 + v.getD b 0 + x
  let vd := rotate (v.getD d 0 ^^^ va) 16
  let vc := v.getD c 0 + vd
  let vb := rotate (v.getD b 0 ^^^ vc) 12
  let va := va + vb + y
  let vd := rotate (vd ^^^ va) 8
  let vc := vc + vd
  let vb := rotate (vb ^^^ vc) 7
  (((v.setIfInBounds a va).setIfInBounds b vb).setIfInBounds c vc).setIfInBounds d vd

/-- Mixes a whole message block into the columns and then the diagonals of the state. -/
def round (v m : Array UInt32) : Array UInt32 :=
  let w (i : Nat) := m.getD i 0
  let v := mix v 0 4 8 12 (w 0) (w 1)
  let v := mix v 1 5 9 13 (w 2) (w 3)
  let v := mix v 2 6 10 14 (w 4) (w 5)
  let v := mix v 3 7 11 15 (w 6) (w 7)
  let v := mix v 0 5 10 15 (w 8) (w 9)
  let v := mix v 1 6 11 12 (w 10) (w 11)
  let v := mix v 2 7 8 13 (w 12) (w 13)
  mix v 3 4 9 14 (w 14) (w 15)

/-- Runs a number of rounds, with the message words permuted between them. -/
def rounds : Nat → Array UInt32 → Array UInt32 → Array UInt32
  | 0, v, _ => v
  | n + 1, v, m => rounds n (round v m) (permutation.map fun i => m.getD i 0)

/-- A node of the tree before its last compression. -/
structure Node where
  chain : Array UInt32
  block : Array UInt32
  counter : Nat
  size : Nat
  flags : UInt32

/-- The first eight words of a compressed node. -/
def Node.compress (n : Node) : Array UInt32 :=
  let state := n.chain ++ initial.take 4 ++
    #[UInt32.ofNat n.counter, UInt32.ofNat (n.counter >>> 32), UInt32.ofNat n.size, n.flags]
  let state := rounds 7 state n.block
  Array.ofFn fun i : Fin 8 => state.getD i.val 0 ^^^ state.getD (i.val + 8) 0

/-- The little-endian word at the front of some bytes. -/
def word (bytes : List UInt8) : UInt32 :=
  (bytes.take 4).foldr (fun b acc => acc * 256 + b.toUInt32) 0

/-- The sixteen words of a block, filled up with zeros. -/
def blockWords (bytes : List UInt8) : Array UInt32 :=
  Array.ofFn fun i : Fin 16 => word (bytes.drop (4 * i.val))

/-- The last node of a chunk whose earlier blocks have been compressed into `chain`. -/
def chunkFrom (counter : Nat) (chain : Array UInt32) (flags : UInt32) (bytes : List UInt8) : Node :=
  let block := bytes.take 64
  let node : Node := { chain, block := blockWords block, counter, size := block.length, flags }
  if _h : bytes.length ≤ 64 then { node with flags := flags ||| chunkEnd }
  else chunkFrom counter node.compress 0 (bytes.drop 64)
termination_by bytes.length
decreasing_by simp; omega

/-- The node of a chunk. -/
def chunk (counter : Nat) (bytes : List UInt8) : Node := chunkFrom counter initial chunkStart bytes

/-- The number of bytes in the left subtree of `size` bytes, more than one chunk. -/
def leftSize (size : Nat) : Nat := 1024 <<< ((size - 1) / 1024).log2

theorem leftSize_pos (size : Nat) : 0 < leftSize size := by
  have := Nat.two_pow_pos ((size - 1) / 1024).log2
  simp only [leftSize, Nat.shiftLeft_eq]
  omega

theorem leftSize_lt {size : Nat} (h : 1024 < size) : leftSize size < size := by
  have hpos : (size - 1) / 1024 ≠ 0 := by omega
  have := Nat.log2_self_le hpos
  simp only [leftSize, Nat.shiftLeft_eq]
  omega

/-- The node of a subtree whose first chunk has the number `counter`. -/
def subtree (counter : Nat) (bytes : List UInt8) : Node :=
  if h : bytes.length ≤ 1024 then chunk counter bytes
  else
    let size := leftSize bytes.length
    have := leftSize_pos bytes.length
    have : leftSize bytes.length < bytes.length := leftSize_lt (by omega)
    let left := (subtree counter (bytes.take size)).compress
    let right := (subtree (counter + size / 1024) (bytes.drop size)).compress
    { chain := initial, block := left ++ right, counter := 0, size := 64, flags := parent }
termination_by bytes.length
decreasing_by
  · simp only [List.length_take]
    omega
  · simp only [List.length_drop]
    omega

/-- The words of the digest. -/
def digest (bytes : List UInt8) : Array UInt32 :=
  let node := subtree 0 bytes
  { node with counter := 0, flags := node.flags ||| root }.compress

/-- Two hexadecimal digits of a byte. -/
def hexByte (n : Nat) : String := String.ofList [Nat.digitChar (n / 16 % 16), Nat.digitChar (n % 16)]

/-- Words in hexadecimal digits, lowest byte first. -/
def hexWords (words : Array UInt32) : String :=
  words.foldl (fun acc w =>
    let n := w.toNat
    acc ++ hexByte n ++ hexByte (n / 256) ++ hexByte (n / 65536) ++ hexByte (n / 16777216)) ""

end Overworld.Blake3
