import RegistryAuth.Crypto.Blake2b

/-! # Argon2

The memory-hard password hash. A memory of blocks of one kibibyte is filled
lane by lane, each block made from the block before it and from an earlier one,
and this is repeated in several passes. The earlier block is chosen by the
contents of the memory, independently of them, or, in the hybrid variant, first
independently and later by contents. The tag is made from the last blocks.
-/

namespace RegistryAuth.Argon2

inductive Variant where
  | dataDependent
  | dataIndependent
  | hybrid
deriving DecidableEq, Repr

def Variant.code : Variant → Nat
  | dataDependent => 0
  | dataIndependent => 1
  | hybrid => 2

/-- In the first version later passes replace blocks, in the second they are combined with what
was there. -/
inductive Version where
  | v10
  | v13
deriving DecidableEq, Repr

def Version.code : Version → Nat
  | v10 => 0x10
  | v13 => 0x13

/-- Memory is counted in kibibytes. -/
structure Cost where
  memory : Nat
  passes : Nat
  lanes : Nat
deriving DecidableEq, Repr

structure Block where
  r0 : Words
  r1 : Words
  r2 : Words
  r3 : Words
  r4 : Words
  r5 : Words
  r6 : Words
  r7 : Words
deriving Inhabited

namespace Block

def zero : Block :=
  ⟨Words.zero, Words.zero, Words.zero, Words.zero,
    Words.zero, Words.zero, Words.zero, Words.zero⟩

def xor (a b : Block) : Block :=
  ⟨a.r0.xor b.r0, a.r1.xor b.r1, a.r2.xor b.r2, a.r3.xor b.r3,
    a.r4.xor b.r4, a.r5.xor b.r5, a.r6.xor b.r6, a.r7.xor b.r7⟩

/-- Exchanges the rows and the columns of a square of pairs of words. -/
def transpose (b : Block) : Block :=
  ⟨⟨b.r0.w0, b.r0.w1, b.r1.w0, b.r1.w1, b.r2.w0, b.r2.w1, b.r3.w0, b.r3.w1,
      b.r4.w0, b.r4.w1, b.r5.w0, b.r5.w1, b.r6.w0, b.r6.w1, b.r7.w0, b.r7.w1⟩,
    ⟨b.r0.w2, b.r0.w3, b.r1.w2, b.r1.w3, b.r2.w2, b.r2.w3, b.r3.w2, b.r3.w3,
      b.r4.w2, b.r4.w3, b.r5.w2, b.r5.w3, b.r6.w2, b.r6.w3, b.r7.w2, b.r7.w3⟩,
    ⟨b.r0.w4, b.r0.w5, b.r1.w4, b.r1.w5, b.r2.w4, b.r2.w5, b.r3.w4, b.r3.w5,
      b.r4.w4, b.r4.w5, b.r5.w4, b.r5.w5, b.r6.w4, b.r6.w5, b.r7.w4, b.r7.w5⟩,
    ⟨b.r0.w6, b.r0.w7, b.r1.w6, b.r1.w7, b.r2.w6, b.r2.w7, b.r3.w6, b.r3.w7,
      b.r4.w6, b.r4.w7, b.r5.w6, b.r5.w7, b.r6.w6, b.r6.w7, b.r7.w6, b.r7.w7⟩,
    ⟨b.r0.w8, b.r0.w9, b.r1.w8, b.r1.w9, b.r2.w8, b.r2.w9, b.r3.w8, b.r3.w9,
      b.r4.w8, b.r4.w9, b.r5.w8, b.r5.w9, b.r6.w8, b.r6.w9, b.r7.w8, b.r7.w9⟩,
    ⟨b.r0.w10, b.r0.w11, b.r1.w10, b.r1.w11, b.r2.w10, b.r2.w11, b.r3.w10, b.r3.w11,
      b.r4.w10, b.r4.w11, b.r5.w10, b.r5.w11, b.r6.w10, b.r6.w11, b.r7.w10, b.r7.w11⟩,
    ⟨b.r0.w12, b.r0.w13, b.r1.w12, b.r1.w13, b.r2.w12, b.r2.w13, b.r3.w12, b.r3.w13,
      b.r4.w12, b.r4.w13, b.r5.w12, b.r5.w13, b.r6.w12, b.r6.w13, b.r7.w12, b.r7.w13⟩,
    ⟨b.r0.w14, b.r0.w15, b.r1.w14, b.r1.w15, b.r2.w14, b.r2.w15, b.r3.w14, b.r3.w15,
      b.r4.w14, b.r4.w15, b.r5.w14, b.r5.w15, b.r6.w14, b.r6.w15, b.r7.w14, b.r7.w15⟩⟩

@[inline]
def multiplyAdd (x y : UInt64) : UInt64 :=
  x + y + 2 * (x &&& 0xffffffff) * (y &&& 0xffffffff)

@[inline]
def mixFour (a b c d : UInt64) : Quad :=
  let a := multiplyAdd a b
  let d := Blake2b.rotate (d ^^^ a) 32
  let c := multiplyAdd c d
  let b := Blake2b.rotate (b ^^^ c) 24
  let a := multiplyAdd a b
  let d := Blake2b.rotate (d ^^^ a) 16
  let c := multiplyAdd c d
  let b := Blake2b.rotate (b ^^^ c) 63
  ⟨a, b, c, d⟩

@[noinline]
def mixRow (v : Words) : Words := v.mix mixFour

def mixRows (b : Block) : Block :=
  ⟨mixRow b.r0, mixRow b.r1, mixRow b.r2, mixRow b.r3,
    mixRow b.r4, mixRow b.r5, mixRow b.r6, mixRow b.r7⟩

/-- Makes one block of two: their sum is mixed by rows and by columns and added again. -/
def compress (a b : Block) : Block :=
  let sum := a.xor b
  (sum.mixRows.transpose.mixRows.transpose).xor sum

def toList (b : Block) : List UInt64 :=
  [b.r0, b.r1, b.r2, b.r3, b.r4, b.r5, b.r6, b.r7].flatMap Words.toList

def ofList (words : List UInt64) : Block :=
  let row (i : Nat) := Words.ofList ((words.drop (16 * i)).take 16)
  ⟨row 0, row 1, row 2, row 3, row 4, row 5, row 6, row 7⟩

end Block

def le32 (n : Nat) : Bytes := Bytes.ofNatLittle 4 n

/-- A field preceded by its length. -/
def sized (bytes : Bytes) : Bytes := le32 bytes.length ++ bytes

/-- The parts of 32 bytes of a long hash, each the hash of the one before, and the last whole. -/
def longHashParts (size : Nat) : Nat → Bytes → Bytes
  | 0, part => Blake2b.digest size part
  | count + 1, part =>
    let next := Blake2b.digest 64 part
    next.take 32 ++ longHashParts (size - 32) count next

/-- A hash of any size. -/
def longHash (size : Nat) (input : Bytes) : Bytes :=
  let input := le32 size ++ input
  if size ≤ 64 then Blake2b.digest size input
  else longHashParts size ((size + 31) / 32 - 2) input

/-- The sizes of the memory: blocks in a lane and blocks in each of the four segments of a lane. -/
structure Layout where
  variant : Variant
  version : Version
  lanes : Nat
  passes : Nat
  segment : Nat

namespace Layout

def lane (layout : Layout) : Nat := 4 * layout.segment

def blocks (layout : Layout) : Nat := layout.lanes * layout.lane

def ofCost (variant : Variant) (version : Version) (cost : Cost) : Layout :=
  ⟨variant, version, cost.lanes, cost.passes, cost.memory / (4 * cost.lanes)⟩

end Layout

/-- A segment to be filled: its pass, its slice of the lanes, and its lane. -/
structure Place where
  pass : Nat
  slice : Nat
  lane : Nat

def independent (layout : Layout) (place : Place) : Bool :=
  match layout.variant with
  | .dataDependent => false
  | .dataIndependent => true
  | .hybrid => place.pass = 0 && place.slice < 2

/-- The block of numbers that choose earlier blocks independently of the memory. -/
def addressBlock (layout : Layout) (place : Place) (counter : Nat) : Block :=
  let input := Block.ofList ([place.pass, place.lane, place.slice, layout.blocks, layout.passes,
    layout.variant.code, counter].map UInt64.ofNat)
  Block.zero.compress (Block.zero.compress input)

/-- How many blocks there are to choose from for the block at `index` of a segment. -/
def choices (layout : Layout) (place : Place) (index : Nat) (sameLane : Bool) : Nat :=
  let done := if place.pass = 0 then place.slice * layout.segment
    else layout.lane - layout.segment
  if sameLane then done + index - 1
  else if index = 0 then done - 1 else done

/-- The place in the memory of the earlier block that a number chooses. -/
def chosen (layout : Layout) (place : Place) (index : Nat) (number : UInt64) : Nat :=
  let low := (number &&& 0xffffffff).toNat
  let high := (number >>> 32).toNat
  let lane := if place.pass = 0 && place.slice = 0 then place.lane else high % layout.lanes
  let count := choices layout place index (lane == place.lane)
  let back := count * (low * low / UInt32.size) / UInt32.size
  let start := if place.pass = 0 || place.slice = 3 then 0 else (place.slice + 1) * layout.segment
  lane * layout.lane + (start + (count - 1 - back)) % layout.lane

/-- Fills the rest of a segment from `index` on, `count` blocks. `addresses` are the numbers for
blocks chosen independently of the memory, up to the next multiple of 128. -/
def fillSegment (layout : Layout) (place : Place) (addresses : Array UInt64) (index : Nat)
    (memory : Array Block) : Nat → Array Block
  | 0 => memory
  | count + 1 =>
    let base := place.lane * layout.lane
    let offset := place.slice * layout.segment + index
    let before := base + (if offset = 0 then layout.lane - 1 else offset - 1)
    let previous := memory.getD before Block.zero
    let addresses :=
      if independent layout place && (index % 128 = 0 || addresses.isEmpty) then
        (addressBlock layout place (index / 128 + 1)).toList.toArray
      else addresses
    let number :=
      if independent layout place then addresses.getD (index % 128) 0 else previous.r0.w0
    let made := previous.compress (memory.getD (chosen layout place index number) Block.zero)
    let made :=
      if place.pass = 0 || layout.version = .v10 then made
      else made.xor (memory.getD (base + offset) Block.zero)
    fillSegment layout place addresses (index + 1)
      (memory.setIfInBounds (base + offset) made) count

def places (layout : Layout) : List Place :=
  (List.range layout.passes).flatMap fun pass =>
    (List.range 4).flatMap fun slice =>
      (List.range layout.lanes).map fun lane => ⟨pass, slice, lane⟩

def fillPlace (layout : Layout) (memory : Array Block) (place : Place) : Array Block :=
  let first := if place.pass = 0 && place.slice = 0 then 2 else 0
  fillSegment layout place #[] first memory (layout.segment - first)

/-- The memory with the first two blocks of each lane. -/
def initialMemory (layout : Layout) (seed : Bytes) : Array Block :=
  (List.range layout.lanes).foldl (fun memory lane =>
    (List.range 2).foldl (fun memory column =>
      memory.setIfInBounds (lane * layout.lane + column)
        (Block.ofList (wordsOfBytes (longHash 1024 (seed ++ le32 column ++ le32 lane)))))
      memory)
    (Array.replicate layout.blocks Block.zero)

structure Input where
  password : Bytes
  salt : Bytes
  associated : Bytes

/-- The tag of `size` bytes for a password. -/
def tag (variant : Variant) (version : Version) (cost : Cost) (size : Nat) (input : Input) :
    Bytes :=
  let layout := Layout.ofCost variant version cost
  let seed := Blake2b.digest 64 (le32 cost.lanes ++ le32 size ++ le32 cost.memory ++
    le32 cost.passes ++ le32 version.code ++ le32 variant.code ++ sized input.password ++
    sized input.salt ++ sized [] ++ sized input.associated)
  let memory := (places layout).foldl (fillPlace layout) (initialMemory layout seed)
  let last := (List.range layout.lanes).foldl (fun block lane =>
    block.xor (memory.getD (lane * layout.lane + layout.lane - 1) Block.zero)) Block.zero
  longHash size (bytesOfWords last.toList)

end RegistryAuth.Argon2
