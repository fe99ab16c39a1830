import RegistryAuth.Crypto.Words

/-! # BLAKE2b

The hash function on which the password hash is built. A message is cut into
blocks of 128 bytes, and twelve rounds mix each block into a state of eight
words; each round takes the words of the block in an order of its own.
-/

namespace RegistryAuth.Blake2b

def initial : List UInt64 := [
  0x6a09e667f3bcc908, 0xbb67ae8584caa73b, 0x3c6ef372fe94f82b, 0xa54ff53a5f1d36f1,
  0x510e527fade682d1, 0x9b05688c2b3e6c1f, 0x1f83d9abfb41bd6b, 0x5be0cd19137e2179]

/-- The order of the block's words in each round. The last two rounds repeat the first two. -/
def orders : List (List Nat) := [
  [0, 1, 2, 3, 4, 5, 6, 7, 8, 9, 10, 11, 12, 13, 14, 15],
  [14, 10, 4, 8, 9, 15, 13, 6, 1, 12, 0, 2, 11, 7, 5, 3],
  [11, 8, 12, 0, 5, 2, 15, 13, 10, 14, 3, 6, 7, 1, 9, 4],
  [7, 9, 3, 1, 13, 12, 11, 14, 2, 6, 5, 10, 4, 0, 15, 8],
  [9, 0, 5, 7, 2, 4, 10, 15, 14, 1, 11, 12, 6, 8, 3, 13],
  [2, 12, 6, 10, 0, 11, 8, 3, 4, 13, 7, 5, 15, 14, 1, 9],
  [12, 5, 1, 15, 14, 13, 4, 10, 0, 7, 6, 3, 9, 2, 8, 11],
  [13, 11, 7, 14, 12, 1, 3, 9, 5, 0, 15, 4, 8, 6, 2, 10],
  [6, 15, 14, 9, 11, 3, 0, 8, 12, 2, 13, 7, 1, 4, 10, 5],
  [10, 2, 8, 4, 7, 6, 1, 5, 15, 11, 9, 14, 3, 12, 13, 0],
  [0, 1, 2, 3, 4, 5, 6, 7, 8, 9, 10, 11, 12, 13, 14, 15],
  [14, 10, 4, 8, 9, 15, 13, 6, 1, 12, 0, 2, 11, 7, 5, 3]]

@[inline]
def rotate (x n : UInt64) : UInt64 := (x >>> n) ||| (x <<< (64 - n))

/-- Mixes two words of the block into four of the state. -/
def mixFour (x y a b c d : UInt64) : Quad :=
  let a := a + b + x
  let d := rotate (d ^^^ a) 32
  let c := c + d
  let b := rotate (b ^^^ c) 24
  let a := a + b + y
  let d := rotate (d ^^^ a) 16
  let c := c + d
  let b := rotate (b ^^^ c) 63
  ⟨a, b, c, d⟩

def round (block : Array UInt64) (v : Words) (order : List Nat) : Words :=
  let word (i : Nat) : UInt64 := block.getD (order.getD i 0) 0
  let f (i : Nat) := mixFour (word (2 * i)) (word (2 * i + 1))
  let p := f 0 v.w0 v.w4 v.w8 v.w12
  let q := f 1 v.w1 v.w5 v.w9 v.w13
  let r := f 2 v.w2 v.w6 v.w10 v.w14
  let s := f 3 v.w3 v.w7 v.w11 v.w15
  let t := f 4 p.a q.b r.c s.d
  let u := f 5 q.a r.b s.c p.d
  let x := f 6 r.a s.b p.c q.d
  let y := f 7 s.a p.b q.c r.d
  ⟨t.a, u.a, x.a, y.a, y.b, t.b, u.b, x.b, x.c, y.c, t.c, u.c, u.d, x.d, y.d, t.d⟩

/-- Mixes a block into the state; `count` bytes of the message have been taken so far. -/
def compress (state : List UInt64) (block : Bytes) (count : Nat) (last : Bool) : List UInt64 :=
  let words := (wordsOfBytes block).toArray
  let v := Words.ofList (state ++ initial)
  let v := { v with
    w12 := v.w12 ^^^ UInt64.ofNat count
    w14 := if last then ~~~v.w14 else v.w14 }
  let mixed := (orders.foldl (round words) v).toList
  List.zipWith (· ^^^ ·) state (List.zipWith (· ^^^ ·) (mixed.take 8) (mixed.drop 8))

/-- Mixes the blocks of a message; the last one is filled up with zeros. -/
def absorb (state : List UInt64) (taken : Nat) : List Bytes → List UInt64
  | [] => compress state (List.replicate 128 0) taken true
  | [block] =>
    compress state (block ++ List.replicate (128 - block.length) 0) (taken + block.length) true
  | block :: rest => absorb (compress state block (taken + 128) false) (taken + 128) rest

/-- The digest of `size` bytes, at most 64. -/
def digest (size : Nat) (message : Bytes) : Bytes :=
  let state :=
    match initial with
    | first :: rest => (first ^^^ UInt64.ofNat (0x01010000 + size)) :: rest
    | [] => []
  (bytesOfWords (absorb state 0 (Bytes.chunks 128 message))).take size

end RegistryAuth.Blake2b
