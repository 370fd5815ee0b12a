import Giro.Digest.Blake2b

/-!
# Argon2

Password hashing that fills memory. A block of 1024 bytes is a square of eight rows of sixteen
words; two blocks are mixed by permuting the rows and then the columns of their sum. Each lane of
the memory is filled in four slices a pass, every block from the one before it and from an earlier
block that is chosen by the data (`d`), by a counter (`i`), or by the counter for the first half of
the first pass (`id`).
-/

namespace Giro.Password.Argon2

open Digest

inductive Variant where
  | d
  | i
  | id
  deriving DecidableEq

def Variant.code : Variant → Nat
  | .d => 0
  | .i => 1
  | .id => 2

/-- In the first version later passes overwrite a block; in the second they add to it. -/
inductive Version where
  | first
  | second
  deriving DecidableEq

def Version.code : Version → Nat
  | .first => 16
  | .second => 19

/-- Memory in blocks, passes over it, and lanes. -/
structure Cost where
  memory : Nat
  passes : Nat
  lanes : Nat
  deriving DecidableEq

namespace Cost

def standard : Cost := ⟨19456, 2, 1⟩

/-- The costs that can be computed: each lane has room for its slices. -/
def Valid (c : Cost) : Prop :=
  8 ≤ c.memory ∧ 8 * c.lanes ≤ c.memory ∧ c.memory ≤ 4294967295 ∧
    1 ≤ c.passes ∧ c.passes ≤ 4294967295 ∧ 1 ≤ c.lanes ∧ c.lanes ≤ 16777215

instance (c : Cost) : Decidable c.Valid := inferInstanceAs (Decidable (_ ∧ _))

/-- Eight blocks for each lane are more than 32 bits count. Less memory than one lane needs is
noticed before. -/
def Overflows (c : Cost) : Prop := 8 ≤ c.memory ∧ 4294967295 < 8 * c.lanes

instance (c : Cost) : Decidable c.Overflows := inferInstanceAs (Decidable (_ ∧ _))

/-- Blocks in a slice of one lane. -/
def sliceLength (c : Cost) : Nat := c.memory / (4 * c.lanes)

def laneLength (c : Cost) : Nat := 4 * c.sliceLength

def blocks (c : Cost) : Nat := c.lanes * c.laneLength

end Cost

/-- Sixteen words. -/
structure Row where
  (w0 w1 w2 w3 w4 w5 w6 w7 w8 w9 w10 w11 w12 w13 w14 w15 : UInt64)

structure Block where
  (a b c d e f g h : Row)

@[inline] def rotateRight (x n : UInt64) : UInt64 := (x >>> n) ||| (x <<< (64 - n))

/-- A sum with twice the product of the lower halves. -/
@[inline] def blend (x y : UInt64) : UInt64 := x + y + 2 * (x &&& 0xffffffff) * (y &&& 0xffffffff)

@[inline] def mix (a b c d : UInt64) (next : UInt64 → UInt64 → UInt64 → UInt64 → Row) : Row :=
  let a := blend a b
  let d := rotateRight (d ^^^ a) 32
  let c := blend c d
  let b := rotateRight (b ^^^ c) 24
  let a := blend a b
  let d := rotateRight (d ^^^ a) 16
  let c := blend c d
  let b := rotateRight (b ^^^ c) 63
  next a b c d

/-- Mixes the row, taken as a square of four by four words, by columns and by diagonals. -/
def Row.permute (x : Row) : Row :=
  mix x.w0 x.w4 x.w8 x.w12 fun w0 w4 w8 w12 =>
  mix x.w1 x.w5 x.w9 x.w13 fun w1 w5 w9 w13 =>
  mix x.w2 x.w6 x.w10 x.w14 fun w2 w6 w10 w14 =>
  mix x.w3 x.w7 x.w11 x.w15 fun w3 w7 w11 w15 =>
  mix w0 w5 w10 w15 fun w0 w5 w10 w15 =>
  mix w1 w6 w11 w12 fun w1 w6 w11 w12 =>
  mix w2 w7 w8 w13 fun w2 w7 w8 w13 =>
  mix w3 w4 w9 w14 fun w3 w4 w9 w14 =>
    ⟨w0, w1, w2, w3, w4, w5, w6, w7, w8, w9, w10, w11, w12, w13, w14, w15⟩

def Row.xor (x y : Row) : Row :=
  ⟨x.w0 ^^^ y.w0, x.w1 ^^^ y.w1, x.w2 ^^^ y.w2, x.w3 ^^^ y.w3, x.w4 ^^^ y.w4, x.w5 ^^^ y.w5,
    x.w6 ^^^ y.w6, x.w7 ^^^ y.w7, x.w8 ^^^ y.w8, x.w9 ^^^ y.w9, x.w10 ^^^ y.w10, x.w11 ^^^ y.w11,
    x.w12 ^^^ y.w12, x.w13 ^^^ y.w13, x.w14 ^^^ y.w14, x.w15 ^^^ y.w15⟩

def Row.zero : Row := ⟨0, 0, 0, 0, 0, 0, 0, 0, 0, 0, 0, 0, 0, 0, 0, 0⟩

def Row.ofWords (w : Array UInt64) (start : Nat) : Row :=
  let word (i : Nat) : UInt64 := w.getD (start + i) 0
  ⟨word 0, word 1, word 2, word 3, word 4, word 5, word 6, word 7, word 8, word 9, word 10, word 11,
    word 12, word 13, word 14, word 15⟩

def Row.words (x : Row) : List UInt64 :=
  [x.w0, x.w1, x.w2, x.w3, x.w4, x.w5, x.w6, x.w7, x.w8, x.w9, x.w10, x.w11, x.w12, x.w13, x.w14,
    x.w15]

namespace Block

def zero : Block := ⟨.zero, .zero, .zero, .zero, .zero, .zero, .zero, .zero⟩

def xor (x y : Block) : Block :=
  ⟨x.a.xor y.a, x.b.xor y.b, x.c.xor y.c, x.d.xor y.d, x.e.xor y.e, x.f.xor y.f, x.g.xor y.g,
    x.h.xor y.h⟩

def permuteRows (m : Block) : Block :=
  ⟨m.a.permute, m.b.permute, m.c.permute, m.d.permute, m.e.permute, m.f.permute, m.g.permute,
    m.h.permute⟩

/-- Exchanges rows and columns, a column being two words wide. -/
def transpose (m : Block) : Block :=
  ⟨⟨m.a.w0, m.a.w1, m.b.w0, m.b.w1, m.c.w0, m.c.w1, m.d.w0, m.d.w1,
     m.e.w0, m.e.w1, m.f.w0, m.f.w1, m.g.w0, m.g.w1, m.h.w0, m.h.w1⟩,
    ⟨m.a.w2, m.a.w3, m.b.w2, m.b.w3, m.c.w2, m.c.w3, m.d.w2, m.d.w3,
     m.e.w2, m.e.w3, m.f.w2, m.f.w3, m.g.w2, m.g.w3, m.h.w2, m.h.w3⟩,
    ⟨m.a.w4, m.a.w5, m.b.w4, m.b.w5, m.c.w4, m.c.w5, m.d.w4, m.d.w5,
     m.e.w4, m.e.w5, m.f.w4, m.f.w5, m.g.w4, m.g.w5, m.h.w4, m.h.w5⟩,
    ⟨m.a.w6, m.a.w7, m.b.w6, m.b.w7, m.c.w6, m.c.w7, m.d.w6, m.d.w7,
     m.e.w6, m.e.w7, m.f.w6, m.f.w7, m.g.w6, m.g.w7, m.h.w6, m.h.w7⟩,
    ⟨m.a.w8, m.a.w9, m.b.w8, m.b.w9, m.c.w8, m.c.w9, m.d.w8, m.d.w9,
     m.e.w8, m.e.w9, m.f.w8, m.f.w9, m.g.w8, m.g.w9, m.h.w8, m.h.w9⟩,
    ⟨m.a.w10, m.a.w11, m.b.w10, m.b.w11, m.c.w10, m.c.w11, m.d.w10, m.d.w11,
     m.e.w10, m.e.w11, m.f.w10, m.f.w11, m.g.w10, m.g.w11, m.h.w10, m.h.w11⟩,
    ⟨m.a.w12, m.a.w13, m.b.w12, m.b.w13, m.c.w12, m.c.w13, m.d.w12, m.d.w13,
     m.e.w12, m.e.w13, m.f.w12, m.f.w13, m.g.w12, m.g.w13, m.h.w12, m.h.w13⟩,
    ⟨m.a.w14, m.a.w15, m.b.w14, m.b.w15, m.c.w14, m.c.w15, m.d.w14, m.d.w15,
     m.e.w14, m.e.w15, m.f.w14, m.f.w15, m.g.w14, m.g.w15, m.h.w14, m.h.w15⟩⟩

def mix (x y : Block) : Block :=
  let sum := x.xor y
  sum.xor sum.permuteRows.transpose.permuteRows.transpose

def ofWords (w : Array UInt64) : Block :=
  let row (i : Nat) : Row := .ofWords w (16 * i)
  ⟨row 0, row 1, row 2, row 3, row 4, row 5, row 6, row 7⟩

def ofBytes (bytes : List UInt8) : Block := ofWords (Blake2b.words bytes).toArray

def words (m : Block) : List UInt64 := [m.a, m.b, m.c, m.d, m.e, m.f, m.g, m.h].flatMap Row.words

def bytes (m : Block) : List UInt8 := m.words.flatMap fun w => Blake2b.bytesOfNat 8 w.toNat

end Block

/-- Where a block is being filled. -/
structure Position where
  pass : Nat
  slice : Nat
  lane : Nat
  index : Nat

/-- The words that choose the earlier block, in runs of 128. -/
def addresses (v : Variant) (c : Cost) (p : Position) : Block :=
  let input :=
    #[p.pass, p.lane, p.slice, c.blocks, c.passes, v.code, p.index / 128 + 1].map UInt64.ofNat
  Block.mix .zero (Block.mix .zero (.ofWords input))

def Variant.isIndependent (v : Variant) (p : Position) : Bool :=
  match v with
  | .d => false
  | .i => true
  | .id => p.pass == 0 && p.slice < 2

/-- The earlier block that a choice word stands for, as lane and column. -/
def reference (c : Cost) (p : Position) (choice : UInt64) : Nat × Nat :=
  let lane := if p.pass == 0 && p.slice == 0 then p.lane else (choice >>> 32).toNat % c.lanes
  let done := if p.pass == 0 then p.slice * c.sliceLength else c.laneLength - c.sliceLength
  let size :=
    if lane == p.lane then done + p.index - 1
    else if p.index == 0 then done - 1
    else done
  let square := (choice &&& 0xffffffff) * (choice &&& 0xffffffff)
  let back := size - 1 - size * (square >>> 32).toNat / 4294967296
  let start := if p.pass == 0 || p.slice == 3 then 0 else (p.slice + 1) * c.sliceLength
  (lane, (start + back) % c.laneLength)

/-- The memory and the run of choice words in use. -/
structure Filling where
  memory : Array Block
  run : Array UInt64

def Filling.step (variant : Variant) (version : Version) (c : Cost) (p : Position) (s : Filling) :
    Filling :=
  let column := p.slice * c.sliceLength + p.index
  let first := p.lane * c.laneLength
  let previous := s.memory.getD (first + (column + c.laneLength - 1) % c.laneLength) .zero
  let independent := variant.isIndependent p
  let run :=
    if independent && p.index % 128 == 0 then (addresses variant c p).words.toArray else s.run
  let choice := if independent then run.getD (p.index % 128) 0 else previous.a.w0
  let (lane, earlier) := reference c p choice
  let mixed := previous.mix (s.memory.getD (lane * c.laneLength + earlier) .zero)
  let block :=
    if p.pass == 0 || version == .first then mixed
    else mixed.xor (s.memory.getD (first + column) .zero)
  ⟨s.memory.setIfInBounds (first + column) block, run⟩

/-- Fills a slice of one lane; the first two blocks of a lane are given. -/
def Filling.slice (variant : Variant) (version : Version) (c : Cost) (pass slice lane : Nat)
    (s : Filling) : Filling :=
  let skip := if pass == 0 && slice == 0 then 2 else 0
  let run := (addresses variant c ⟨pass, slice, lane, 0⟩).words.toArray
  Nat.fold (c.sliceLength - skip)
    (fun i _ s => s.step variant version c ⟨pass, slice, lane, i + skip⟩) ⟨s.memory, run⟩

def Filling.pass (variant : Variant) (version : Version) (c : Cost) (pass : Nat) (s : Filling) :
    Filling :=
  Nat.fold 4 (fun slice _ s =>
    Nat.fold c.lanes (fun lane _ s => s.slice variant version c pass slice lane) s) s

/-- What is hashed: a password with its salt, and data that is bound to the digest. -/
structure Input where
  password : List UInt8
  salt : List UInt8
  data : List UInt8 := []

def seed (variant : Variant) (version : Version) (c : Cost) (size : Nat) (input : Input) :
    List UInt8 :=
  let number := Blake2b.bytesOfNat 4
  Blake2b.hash 64 <| number c.lanes ++ number size ++ number c.memory ++ number c.passes ++
    number version.code ++ number variant.code ++ number input.password.length ++ input.password ++
    number input.salt.length ++ input.salt ++ number 0 ++ number input.data.length ++ input.data

/-- Sets the first two blocks of a lane. -/
def start (c : Cost) (seed : List UInt8) (lane : Nat) (memory : Array Block) : Array Block :=
  let block (column : Nat) : Block :=
    .ofBytes <|
      Blake2b.hashLong 1024 (seed ++ Blake2b.bytesOfNat 4 column ++ Blake2b.bytesOfNat 4 lane)
  (memory.setIfInBounds (lane * c.laneLength) (block 0)).setIfInBounds (lane * c.laneLength + 1)
    (block 1)

/-- The sum of the last blocks of all lanes. -/
def last (c : Cost) (memory : Array Block) : Block :=
  Nat.fold c.lanes
    (fun lane _ sum => sum.xor (memory.getD (lane * c.laneLength + c.laneLength - 1) .zero)) .zero

/-- The digest of `size` bytes. -/
def hash (variant : Variant) (version : Version) (c : Cost) (size : Nat) (input : Input) :
    List UInt8 :=
  let seed := seed variant version c size input
  let memory := Array.replicate c.blocks Block.zero
  let memory := Nat.fold c.lanes (fun lane _ m => start c seed lane m) memory
  let filled :=
    Nat.fold c.passes (fun pass _ s => Filling.pass variant version c pass s)
      (Filling.mk memory #[])
  Blake2b.hashLong size (last c filled.memory).bytes

@[simp] theorem length_hash (variant : Variant) (version : Version) (c : Cost) (size : Nat)
    (input : Input) : (hash variant version c size input).length = size := by
  simp [hash]

end Giro.Password.Argon2
