/-!
# The compression function of BLAKE3

`compress` mixes a chaining value of eight words with a block of sixteen words, in seven rounds of
eight quarter rounds, and gives sixteen words; the first eight are the next chaining value.
-/

namespace Typelib.Digest

/-- Sixteen words: a block, or the state while it is mixed. -/
abbrev Words := Vector UInt32 16

/-- A chaining value. -/
abbrev Chaining := Vector UInt32 8

/-- The initial chaining value. -/
def initial : Chaining :=
  #v[0x6a09e667, 0xbb67ae85, 0x3c6ef372, 0xa54ff53a, 0x510e527f, 0x9b05688c, 0x1f83d9ab, 0x5be0cd19]

/-- Where each word of a block stands in the next round. -/
def schedule : Vector (Fin 16) 16 := #v[2, 6, 3, 10, 7, 0, 4, 13, 1, 11, 12, 5, 9, 14, 15, 8]

/-- Rotation to the right. -/
def rotate (x : UInt32) (n : UInt32) : UInt32 := (x >>> n) ||| (x <<< (32 - n))

/-- Mixes two words of a block into four words of the state. -/
def quarter (s : Words) (a b c d : Fin 16) (x y : UInt32) : Words :=
  let sa := s[a] + s[b] + x
  let sd := rotate (s[d] ^^^ sa) 16
  let sc := s[c] + sd
  let sb := rotate (s[b] ^^^ sc) 12
  let sa := sa + sb + y
  let sd := rotate (sd ^^^ sa) 8
  let sc := sc + sd
  let sb := rotate (sb ^^^ sc) 7
  (((s.set a sa).set b sb).set c sc).set d sd

/-- One round: the four columns, then the four diagonals. -/
def mix (s m : Words) : Words :=
  let s := quarter s 0 4 8 12 m[0] m[1]
  let s := quarter s 1 5 9 13 m[2] m[3]
  let s := quarter s 2 6 10 14 m[4] m[5]
  let s := quarter s 3 7 11 15 m[6] m[7]
  let s := quarter s 0 5 10 15 m[8] m[9]
  let s := quarter s 1 6 11 12 m[10] m[11]
  let s := quarter s 2 7 8 13 m[12] m[13]
  quarter s 3 4 9 14 m[14] m[15]

/-- The block of the next round. -/
def reorder (m : Words) : Words := schedule.map fun i => m[i]

/-- The given number of rounds. -/
def rounds : Nat → Words → Words → Words
  | 0, s, _ => s
  | n + 1, s, m => rounds n (mix s m) (reorder m)

/-- Mixes a block into a chaining value. -/
def compress (cv : Chaining) (block : Words) (counter : UInt64) (length flags : UInt32) : Words :=
  let s : Words :=
    #v[cv[0], cv[1], cv[2], cv[3], cv[4], cv[5], cv[6], cv[7],
       initial[0], initial[1], initial[2], initial[3],
       counter.toUInt32, (counter >>> 32).toUInt32, length, flags]
  let s := rounds 7 s block
  Vector.ofFn fun i : Fin 16 =>
    if h : i.val < 8 then s[i] ^^^ s[i.val + 8] else s[i] ^^^ cv[i.val - 8]

/-- The first eight words. -/
def chaining (s : Words) : Chaining := Vector.ofFn fun i : Fin 8 => s[i.val]

end Typelib.Digest
