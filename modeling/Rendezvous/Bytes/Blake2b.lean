/-
  The hash function BLAKE2b, without a key, by which contacts are keyed (`address_digest`).

  The message is cut into blocks of 128 bytes, the last filled with zeros.  Each
  block is mixed into a chain of eight words by twelve rounds; the digest is a
  prefix of the chain in little-endian order.
-/
import Rendezvous.Bytes.Basic

namespace Rendezvous.Blake2b

/-- The initial chain, before the parameters are mixed in. -/
def initial : Array UInt64 :=
  #[0x6a09e667f3bcc908, 0xbb67ae8584caa73b, 0x3c6ef372fe94f82b, 0xa54ff53a5f1d36f1,
    0x510e527fade682d1, 0x9b05688c2b3e6c1f, 0x1f83d9abfb41bd6b, 0x5be0cd19137e2179]

/-- The order in which each round takes up the words of a block; rounds eleven
    and twelve repeat the first two. -/
def schedule : List (Array Nat) :=
  [#[0, 1, 2, 3, 4, 5, 6, 7, 8, 9, 10, 11, 12, 13, 14, 15],
   #[14, 10, 4, 8, 9, 15, 13, 6, 1, 12, 0, 2, 11, 7, 5, 3],
   #[11, 8, 12, 0, 5, 2, 15, 13, 10, 14, 3, 6, 7, 1, 9, 4],
   #[7, 9, 3, 1, 13, 12, 11, 14, 2, 6, 5, 10, 4, 0, 15, 8],
   #[9, 0, 5, 7, 2, 4, 10, 15, 14, 1, 11, 12, 6, 8, 3, 13],
   #[2, 12, 6, 10, 0, 11, 8, 3, 4, 13, 7, 5, 15, 14, 1, 9],
   #[12, 5, 1, 15, 14, 13, 4, 10, 0, 7, 6, 3, 9, 2, 8, 11],
   #[13, 11, 7, 14, 12, 1, 3, 9, 5, 0, 15, 4, 8, 6, 2, 10],
   #[6, 15, 14, 9, 11, 3, 0, 8, 12, 2, 13, 7, 1, 4, 10, 5],
   #[10, 2, 8, 4, 7, 6, 1, 5, 15, 11, 9, 14, 3, 12, 13, 0],
   #[0, 1, 2, 3, 4, 5, 6, 7, 8, 9, 10, 11, 12, 13, 14, 15],
   #[14, 10, 4, 8, 9, 15, 13, 6, 1, 12, 0, 2, 11, 7, 5, 3]]

/-- A word turned right by so many bits. -/
def rotate (w : UInt64) (bits : UInt64) : UInt64 := (w >>> bits) ||| (w <<< (64 - bits))

/-- Mixes two words of a block into four words of the working vector. -/
def mix (v : Array UInt64) (a b c d : Nat) (x y : UInt64) : Array UInt64 :=
  let va := v.getD a 0 + v.getD b 0 + x
  let vd := rotate (v.getD d 0 ^^^ va) 32
  let vc := v.getD c 0 + vd
  let vb := rotate (v.getD b 0 ^^^ vc) 24
  let va := va + vb + y
  let vd := rotate (vd ^^^ va) 16
  let vc := vc + vd
  let vb := rotate (vb ^^^ vc) 63
  (((v.setIfInBounds a va).setIfInBounds b vb).setIfInBounds c vc).setIfInBounds d vd

/-- The four columns and four diagonals of the working vector, in mixing order. -/
def quarters : List (Nat × Nat × Nat × Nat) :=
  [(0, 4, 8, 12), (1, 5, 9, 13), (2, 6, 10, 14), (3, 7, 11, 15),
   (0, 5, 10, 15), (1, 6, 11, 12), (2, 7, 8, 13), (3, 4, 9, 14)]

/-- One round: the `i`-th quarter takes up the words `2i` and `2i + 1` of the order. -/
def round (block : Array UInt64) (v : Array UInt64) (order : Array Nat) : Array UInt64 :=
  (quarters.zipIdx).foldl
    (fun v ((a, b, c, d), i) =>
      mix v a b c d (block.getD (order.getD (2 * i) 0) 0)
        (block.getD (order.getD (2 * i + 1) 0) 0)) v

/-- Mixes a block into the chain; `count` bytes of message end with it. -/
def compress (chain : Array UInt64) (block : Array UInt64) (count : Nat) (last : Bool) :
    Array UInt64 :=
  let v := chain ++ initial
  let v := v.modify 12 (· ^^^ count.toUInt64)
  let v := v.modify 13 (· ^^^ (count / 0x10000000000000000).toUInt64)
  let v := if last then v.modify 14 (· ^^^ 0xffffffffffffffff) else v
  let v := schedule.foldl (round block) v
  (Array.range 8).map fun i => chain.getD i 0 ^^^ v.getD i 0 ^^^ v.getD (i + 8) 0

/-- The number that bytes spell, the least significant first. -/
def wordOf (bytes : Bytes) : UInt64 := bytes.foldr (fun b w => w * 256 + b.toUInt64) 0

/-- The eight bytes of a word, the least significant first. -/
def bytesOf (w : UInt64) : Bytes := (List.range 8).map fun i => (w >>> (8 * i).toUInt64).toUInt8

/-- The sixteen words of a block, zeros where the block is short. -/
def wordsOf (block : Bytes) : Array UInt64 :=
  (Array.range 16).map fun i => wordOf ((block.drop (8 * i)).take 8)

/-- The chain after the rest of a message, of which `done` bytes have been mixed
    in; `blocks` bounds how many blocks are left before the last one. -/
def absorb : (blocks : Nat) → (chain : Array UInt64) → (done : Nat) → Bytes → Array UInt64
  | 0, chain, done, message =>
    compress chain (wordsOf message) (done + message.length) true
  | blocks + 1, chain, done, message =>
    if message.length ≤ 128 then
      compress chain (wordsOf message) (done + message.length) true
    else
      absorb blocks (compress chain (wordsOf (message.take 128)) (done + 128) false) (done + 128)
        (message.drop 128)

/-- The digest of a message, `size` bytes long. -/
def digest (size : Nat) (message : Bytes) : Bytes :=
  let chain := initial.modify 0 (· ^^^ 0x01010000 ^^^ size.toUInt64)
  ((absorb (message.length / 128) chain 0 message).toList.flatMap bytesOf).take size

end Rendezvous.Blake2b
