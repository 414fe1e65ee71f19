/-!
# Content digests

The BLAKE3 hash of a byte sequence with 32 bytes of output. The input is cut into chunks of 1024 bytes
and each chunk into blocks of 64; chunks are the leaves of a binary tree whose left subtrees are
complete, and every node is one call of the compression function.

* `Digest.ofBytes`: the digest of a byte sequence.
* `Digest.hex`: its lowercase hexadecimal form.
-/

namespace StructuralDiff

/-- A digest of 32 bytes. -/
structure Digest where
  bytes : List UInt8
  deriving DecidableEq, Repr

namespace Digest

/-- The chaining value that every chunk starts from. -/
def start : Vector UInt32 8 := #v[
  0x6a09e667, 0xbb67ae85, 0x3c6ef372, 0xa54ff53a, 0x510e527f, 0x9b05688c, 0x1f83d9ab, 0x5be0cd19]

/-- Rotation of a word to the right. -/
def rotate (x by_ : UInt32) : UInt32 :=
  (x >>> by_) ||| (x <<< (32 - by_))

/-- The mixing of four words of the state with two words of the message. -/
def mix (s : Vector UInt32 16) (a b c d : Fin 16) (x y : UInt32) : Vector UInt32 16 :=
  let s := s.set a (s[a] + s[b] + x)
  let s := s.set d (rotate (s[d] ^^^ s[a]) 16)
  let s := s.set c (s[c] + s[d])
  let s := s.set b (rotate (s[b] ^^^ s[c]) 12)
  let s := s.set a (s[a] + s[b] + y)
  let s := s.set d (rotate (s[d] ^^^ s[a]) 8)
  let s := s.set c (s[c] + s[d])
  s.set b (rotate (s[b] ^^^ s[c]) 7)

/-- One round mixes the columns of the state and then its diagonals. -/
def round (s m : Vector UInt32 16) : Vector UInt32 16 :=
  let s := mix s 0 4 8 12 m[0] m[1]
  let s := mix s 1 5 9 13 m[2] m[3]
  let s := mix s 2 6 10 14 m[4] m[5]
  let s := mix s 3 7 11 15 m[6] m[7]
  let s := mix s 0 5 10 15 m[8] m[9]
  let s := mix s 1 6 11 12 m[10] m[11]
  let s := mix s 2 7 8 13 m[12] m[13]
  mix s 3 4 9 14 m[14] m[15]

/-- The order in which the next round reads the message words. -/
def permute (m : Vector UInt32 16) : Vector UInt32 16 := #v[
  m[2], m[6], m[3], m[10], m[7], m[0], m[4], m[13],
  m[1], m[11], m[12], m[5], m[9], m[14], m[15], m[8]]

/-- The given number of rounds, with the message permuted between them. -/
def rounds : Nat → Vector UInt32 16 → Vector UInt32 16 → Vector UInt32 16
  | 0, s, _ => s
  | n + 1, s, m => rounds n (round s m) (permute m)

/-- A call of the compression function before it is made. -/
structure Call where
  chain : Vector UInt32 8
  block : Vector UInt32 16
  counter : UInt64
  size : Nat
  flags : UInt32

/-- The first block of a chunk. -/
def chunkStart : UInt32 := 1
/-- The last block of a chunk. -/
def chunkEnd : UInt32 := 2
/-- A node with two children. -/
def parentNode : UInt32 := 4
/-- The node whose output is the digest. -/
def rootNode : UInt32 := 8

/-- The first half of the compression function's output. -/
def Call.run (call : Call) : Vector UInt32 8 :=
  let h := call.chain
  let state : Vector UInt32 16 := #v[
    h[0], h[1], h[2], h[3], h[4], h[5], h[6], h[7], start[0], start[1], start[2], start[3],
    call.counter.toUInt32, (call.counter >>> 32).toUInt32, call.size.toUInt32, call.flags]
  let s := rounds 7 state call.block
  Vector.ofFn fun i : Fin 8 => s[i.val] ^^^ s[i.val + 8]

/-- The word at index `i` of a block of bytes, least significant byte first; bytes past the end count
as zero. -/
def wordAt (block : Array UInt8) (i : Nat) : UInt32 :=
  let byte (k : Nat) : UInt32 := (block.getD (4 * i + k) 0).toUInt32
  byte 0 ||| (byte 1 <<< 8) ||| (byte 2 <<< 16) ||| (byte 3 <<< 24)

/-- The last call of a chunk, whose remaining bytes are given; the blocks before it have run. -/
def chunk (chain : Vector UInt32 8) (counter : UInt64) (flags : UInt32) (bytes : List UInt8) : Call :=
  let block := (bytes.take 64).toArray
  let words := Vector.ofFn fun i : Fin 16 => wordAt block i
  if bytes.length ≤ 64 then
    { chain, block := words, counter, size := bytes.length, flags := flags ||| chunkEnd }
  else
    let next := Call.run { chain, block := words, counter, size := 64, flags }
    chunk next counter 0 (bytes.drop 64)
termination_by bytes.length
decreasing_by
  simp only [List.length_drop]
  omega

/-- The bytes in the left subtree: the largest power of two of whole chunks that leaves something for
the right one. -/
def leftSize (size : Nat) : Nat :=
  1024 * Nat.pow 2 ((size - 1) / 1024).log2

theorem leftSize_pos (size : Nat) : 0 < leftSize size :=
  Nat.mul_pos (by decide) (Nat.pow_pos (by decide))

theorem leftSize_lt {size : Nat} (h : 1024 < size) : leftSize size < size := by
  have hne : (size - 1) / 1024 ≠ 0 := by
    have : 1 ≤ (size - 1) / 1024 := (Nat.le_div_iff_mul_le (by decide)).2 (by omega)
    omega
  have hle : Nat.pow 2 ((size - 1) / 1024).log2 ≤ (size - 1) / 1024 := Nat.log2_self_le hne
  have hdiv := Nat.div_mul_le_self (size - 1) 1024
  have hmul : leftSize size ≤ 1024 * ((size - 1) / 1024) := Nat.mul_le_mul_left 1024 hle
  omega

/-- The last call of the subtree over the given bytes, whose first chunk has the given number. -/
def subtree (counter : Nat) (bytes : List UInt8) : Call :=
  if h : bytes.length ≤ 1024 then chunk start counter.toUInt64 chunkStart bytes
  else
    let size := leftSize bytes.length
    let left := (subtree counter (bytes.take size)).run
    let right := (subtree (counter + size / 1024) (bytes.drop size)).run
    { chain := start, block := left ++ right, counter := 0, size := 64, flags := parentNode }
termination_by bytes.length
decreasing_by
  · have := leftSize_lt (Nat.lt_of_not_le h)
    simp only [List.length_take]
    omega
  · have := leftSize_pos bytes.length
    simp only [List.length_drop]
    omega

/-- The four bytes of a word, least significant first. -/
def wordBytes (w : UInt32) : List UInt8 :=
  [w.toUInt8, (w >>> 8).toUInt8, (w >>> 16).toUInt8, (w >>> 24).toUInt8]

/-- The digest of a byte sequence. -/
def ofBytes (bytes : List UInt8) : Digest :=
  let call := subtree 0 bytes
  ⟨({ call with flags := call.flags ||| rootNode } : Call).run.toList.flatMap wordBytes⟩

/-- The digest of a text's encoded bytes. -/
def ofText (text : String) : Digest :=
  ofBytes text.toUTF8.data.toList

/-- A digit of base sixteen. -/
def hexDigit (n : Nat) : Char :=
  if n < 10 then Char.ofNat (48 + n) else Char.ofNat (87 + n)

/-- The digest as lowercase hexadecimal text. -/
def hex (digest : Digest) : String :=
  String.ofList (digest.bytes.flatMap fun b => [hexDigit (b.toNat / 16), hexDigit (b.toNat % 16)])

end Digest

end StructuralDiff
