import Typelib.Digest.Compression
import Typelib.Text.Number

/-!
# The BLAKE3 digest

A text is cut into chunks of 1024 bytes, and a chunk into blocks of 64 bytes that are compressed
one after the other.  The chunks are the leaves of a binary tree; a `Node` is the last compression
of a chunk or of two subtrees, still to be carried out, because the root is compressed with a flag
of its own.  Joining neighbours level by level, with an odd node at the end carried over, makes
every left subtree complete.
-/

namespace Typelib.Digest

/-- A compression still to be carried out. -/
structure Node where
  chaining : Chaining
  block : Words
  counter : UInt64
  length : UInt32
  flags : UInt32

/-- The flag of the first block of a chunk. -/
def flagStart : UInt32 := 1

/-- The flag of the last block of a chunk. -/
def flagEnd : UInt32 := 2

/-- The flag of a node above two others. -/
def flagParent : UInt32 := 4

/-- The flag of the root. -/
def flagRoot : UInt32 := 8

/-- The chaining value of a node that is not the root. -/
def Node.value (n : Node) : Chaining :=
  Typelib.Digest.chaining (compress n.chaining n.block n.counter n.length n.flags)

/-- The words of the root. -/
def Node.root (n : Node) : Chaining :=
  Typelib.Digest.chaining (compress n.chaining n.block 0 n.length (n.flags ||| flagRoot))

/-- The byte at a place, or zero past the end. -/
def byteAt (bytes : ByteArray) (i : Nat) : UInt32 :=
  if h : i < bytes.size then bytes[i].toUInt32 else 0

/-- The block of 64 bytes that starts at a place, filled up with zeros; words are little-endian. -/
def blockAt (bytes : ByteArray) (start : Nat) : Words :=
  Vector.ofFn fun i : Fin 16 =>
    let loc := start + 4 * i.val
    byteAt bytes loc ||| (byteAt bytes (loc + 1) <<< 8) ||| (byteAt bytes (loc + 2) <<< 16) |||
      (byteAt bytes (loc + 3) <<< 24)

/-- Compresses the blocks of a chunk up to the last one, which stays to be carried out. -/
def chunkFrom (bytes : ByteArray) (counter : UInt64) (start length : Nat) (cv : Chaining)
    (flags : UInt32) : Node :=
  if length ≤ 64 then
    ⟨cv, blockAt bytes start, counter, length.toUInt32, flags ||| flagEnd⟩
  else
    let next := Typelib.Digest.chaining (compress cv (blockAt bytes start) counter 64 flags)
    chunkFrom bytes counter (start + 64) (length - 64) next 0
termination_by length

/-- The chunk of a number. -/
def chunk (bytes : ByteArray) (number : Nat) : Node :=
  let start := 1024 * number
  chunkFrom bytes number.toUInt64 start (min 1024 (bytes.size - start)) initial flagStart

/-- The number of chunks; an empty text has one. -/
def chunkCount (size : Nat) : Nat := max 1 ((size + 1023) / 1024)

/-- The node above two others. -/
def parent (left right : Node) : Node :=
  ⟨initial, left.value ++ right.value, 0, 64, flagParent⟩

/-- Joins neighbours. -/
def joinPairs : List Node → List Node
  | left :: right :: rest => parent left right :: joinPairs rest
  | nodes => nodes

theorem length_joinPairs_le (nodes : List Node) : (joinPairs nodes).length ≤ nodes.length := by
  fun_induction joinPairs nodes with
  | case1 left right rest ih =>
    simp only [List.length_cons]
    omega
  | case2 => exact Nat.le_refl _

/-- The root of the tree over a row of nodes. -/
def rootOf (first : Node) (rest : List Node) : Node :=
  match rest with
  | [] => first
  | second :: more => rootOf (parent first second) (joinPairs more)
termination_by rest.length
decreasing_by
  have := length_joinPairs_le more
  simp only [List.length_cons]
  omega

/-- The digest of a text of bytes, as words. -/
def digestWords (bytes : ByteArray) : Chaining :=
  let later := (List.range (chunkCount bytes.size - 1)).map fun i => chunk bytes (i + 1)
  (rootOf (chunk bytes 0) later).root

/-- The bytes of a word, lowest first, in hexadecimal. -/
def wordHex (w : UInt32) : List Char :=
  [0, 8, 16, 24].flatMap fun shift : UInt32 => Text.fixedHex 2 ((w >>> shift).toNat % 256)

/-- The digest of a text in sixty-four hexadecimal digits. -/
def hex (text : String) : String :=
  String.ofList ((digestWords text.toUTF8).toList.flatMap wordHex)

end Typelib.Digest
