import Dossier.Number.Power

/-!
# BLAKE3

The 256-bit BLAKE3 hash.  The input is cut into chunks of 1024 bytes and each chunk into blocks of
64; the chaining values of the chunks are joined in a binary tree whose left side is as large a
power of two as leaves something for the right side.
-/

namespace Dossier.Digest.Blake3

/-- Eight words that a compression hands on. -/
abbrev Chain := Array UInt32

/-- The initial chaining value. -/
def initial : Chain :=
  #[0x6a09e667, 0xbb67ae85, 0x3c6ef372, 0xa54ff53a, 0x510e527f, 0x9b05688c, 0x1f83d9ab, 0x5be0cd19]

/-- The order in which the words of a message are used in the next round. -/
def permutation : List Nat := [2, 6, 3, 10, 7, 0, 4, 13, 1, 11, 12, 5, 9, 14, 15, 8]

/-- The flag of the first block of a chunk. -/
def chunkStart : UInt32 := 1

/-- The flag of the last block of a chunk. -/
def chunkEnd : UInt32 := 2

/-- The flag of a node that joins two others. -/
def parentFlag : UInt32 := 4

/-- The flag of the root of the tree. -/
def rootFlag : UInt32 := 8

/-- A word rotated to the right. -/
def rotate (x : UInt32) (n : UInt32) : UInt32 := (x >>> n) ||| (x <<< (32 - n))

/-- The word at a place of a state. -/
def word (s : Array UInt32) (i : Nat) : UInt32 := s.getD i 0

/-- Two message words mixed into four words of the state. -/
def mix (s : Array UInt32) (a b c d : Nat) (x y : UInt32) : Array UInt32 :=
  let va := word s a + word s b + x
  let vd := rotate (word s d ^^^ va) 16
  let vc := word s c + vd
  let vb := rotate (word s b ^^^ vc) 12
  let va := va + vb + y
  let vd := rotate (vd ^^^ va) 8
  let vc := vc + vd
  let vb := rotate (vb ^^^ vc) 7
  (((s.setIfInBounds a va).setIfInBounds b vb).setIfInBounds c vc).setIfInBounds d vd

/-- One round: the columns of the state, then its diagonals. -/
def round (s m : Array UInt32) : Array UInt32 :=
  let s := mix s 0 4 8 12 (word m 0) (word m 1)
  let s := mix s 1 5 9 13 (word m 2) (word m 3)
  let s := mix s 2 6 10 14 (word m 4) (word m 5)
  let s := mix s 3 7 11 15 (word m 6) (word m 7)
  let s := mix s 0 5 10 15 (word m 8) (word m 9)
  let s := mix s 1 6 11 12 (word m 10) (word m 11)
  let s := mix s 2 7 8 13 (word m 12) (word m 13)
  mix s 3 4 9 14 (word m 14) (word m 15)

/-- Rounds, each with the words of the message in a new order. -/
def rounds : Nat → Array UInt32 → Array UInt32 → Array UInt32
  | 0, s, _ => s
  | n + 1, s, m => rounds n (round s m) (permutation.map (word m)).toArray

/-- The chaining value behind a block. -/
def compress (chain m : Array UInt32) (counter : Nat) (length flags : UInt32) : Chain :=
  let s := chain ++ #[word initial 0, word initial 1, word initial 2, word initial 3,
    UInt32.ofNat counter, UInt32.ofNat (counter / twoTo 32), length, flags]
  let s := rounds 7 s m
  ((List.range 8).map fun i => word s i ^^^ word s (i + 8)).toArray

/-- The words of a block of bytes, least byte first, filled up with zeros. -/
def wordsOf : Nat → List UInt8 → List UInt32
  | 0, _ => []
  | n + 1, bytes =>
    let byte (i : Nat) : UInt32 := (bytes.getD i 0).toUInt32
    (byte 0 ||| (byte 1 <<< 8) ||| (byte 2 <<< 16) ||| (byte 3 <<< 24)) :: wordsOf n (bytes.drop 4)

/-- The chaining value of a chunk from its remaining bytes on; `last` holds the flags of its last
block besides. -/
def chunkFrom : Nat → Chain → List UInt8 → Nat → UInt32 → UInt32 → Chain
  | 0, chain, _, _, _, _ => chain
  | fuel + 1, chain, bytes, counter, first, last =>
    let block := bytes.take 64
    let rest := bytes.drop 64
    let m := (wordsOf 16 block).toArray
    if rest.isEmpty then
      compress chain m counter (UInt32.ofNat block.length) (first ||| chunkEnd ||| last)
    else chunkFrom fuel (compress chain m counter 64 first) rest counter 0 last

/-- The chaining value of a chunk of at most 1024 bytes. -/
def chunk (bytes : List UInt8) (counter : Nat) (last : UInt32) : Chain :=
  chunkFrom 16 initial bytes counter chunkStart last

/-- The number of chunks on the left side of a tree of `n` chunks, for `n` of at least two. -/
def leftChunks (n : Nat) : Nat := twoTo (n - 1).log2

/-- The chaining value of a tree over bytes whose first chunk has the number `counter`. -/
def tree : Nat → List UInt8 → Nat → UInt32 → Chain
  | 0, bytes, counter, last => chunk bytes counter last
  | fuel + 1, bytes, counter, last =>
    let n := (bytes.length + 1023) / 1024
    if n ≤ 1 then chunk bytes counter last
    else
      let left := leftChunks n
      let l := tree fuel (bytes.take (1024 * left)) counter 0
      let r := tree fuel (bytes.drop (1024 * left)) (counter + left) 0
      compress initial (l ++ r) 0 64 (parentFlag ||| last)

/-- A byte as two hexadecimal digits. -/
def hexByte (b : UInt8) : List Char :=
  let ds := Nat.toDigits 16 b.toNat
  List.replicate (2 - ds.length) '0' ++ ds

/-- The bytes of a word, the least first. -/
def bytesOf (w : UInt32) : List UInt8 :=
  [w.toUInt8, (w >>> 8).toUInt8, (w >>> 16).toUInt8, (w >>> 24).toUInt8]

/-- The hash of a text in hexadecimal digits. -/
def hex (s : String) : String :=
  let bytes := s.toUTF8.toList
  let root := tree 64 bytes 0 rootFlag
  String.ofList ((root.toList.flatMap bytesOf).flatMap hexByte)

end Dossier.Digest.Blake3
