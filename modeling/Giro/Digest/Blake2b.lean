/-!
# BLAKE2b without a key

A digest of 1 to 64 bytes. Each block of 128 bytes is worked into eight 64-bit words in twelve
rounds; the words of the block enter each round in an order of its own. `hashLong` gives digests of
any length, as password hashing needs them.
-/

namespace Giro.Digest.Blake2b

def initial : Vector UInt64 8 :=
  #v[0x6a09e667f3bcc908, 0xbb67ae8584caa73b, 0x3c6ef372fe94f82b, 0xa54ff53a5f1d36f1,
    0x510e527fade682d1, 0x9b05688c2b3e6c1f, 0x1f83d9abfb41bd6b, 0x5be0cd19137e2179]

/-- The order in which a round takes the words of the block. -/
def orders : List (List Nat) := [
  [0, 1, 2, 3, 4, 5, 6, 7, 8, 9, 10, 11, 12, 13, 14, 15],
  [14, 10, 4, 8, 9, 15, 13, 6, 1, 12, 0, 2, 11, 7, 5, 3],
  [11, 8, 12, 0, 5, 2, 15, 13, 10, 14, 3, 6, 7, 1, 9, 4],
  [7, 9, 3, 1, 13, 12, 11, 14, 2, 6, 5, 10, 4, 0, 15, 8],
  [9, 0, 5, 7, 2, 4, 10, 15, 14, 1, 11, 12, 6, 8, 3, 13],
  [2, 12, 6, 10, 0, 11, 8, 3, 4, 13, 7, 5, 15, 14, 1, 9],
  [12, 5, 1, 15, 14, 13, 4, 10, 0, 7, 6, 3, 9, 2, 8, 11],
  [13, 11, 7, 14, 12, 1, 3, 9, 5, 0, 15, 4, 8, 6, 2, 10],
  [6, 15, 14, 9, 11, 3, 0, 8, 12, 2, 13, 7, 1, 4, 10, 5],
  [10, 2, 8, 4, 7, 6, 1, 5, 15, 11, 9, 14, 3, 12, 13, 0],
  [0, 1, 2, 3, 4, 5, 6, 7, 8, 9, 10, 11, 12, 13, 14, 15],
  [14, 10, 4, 8, 9, 15, 13, 6, 1, 12, 0, 2, 11, 7, 5, 3]]

/-- The four words that each step of a round mixes: columns, then diagonals. -/
def lines : List (Fin 16 × Fin 16 × Fin 16 × Fin 16) :=
  [(0, 4, 8, 12), (1, 5, 9, 13), (2, 6, 10, 14), (3, 7, 11, 15),
    (0, 5, 10, 15), (1, 6, 11, 12), (2, 7, 8, 13), (3, 4, 9, 14)]

@[inline] def rotateRight (x n : UInt64) : UInt64 := (x >>> n) ||| (x <<< (64 - n))

def mix (v : Vector UInt64 16) (line : Fin 16 × Fin 16 × Fin 16 × Fin 16) (x y : UInt64) :
    Vector UInt64 16 :=
  let (i, j, k, l) := line
  let a := v[i] + v[j] + x
  let d := rotateRight (v[l] ^^^ a) 32
  let c := v[k] + d
  let b := rotateRight (v[j] ^^^ c) 24
  let a := a + b + y
  let d := rotateRight (d ^^^ a) 16
  let c := c + d
  let b := rotateRight (b ^^^ c) 63
  (((v.set i a).set j b).set k c).set l d

def round (words : Array UInt64) (v : Vector UInt64 16) (order : List Nat) : Vector UInt64 16 :=
  let taken := order.toArray.map fun i => words.getD i 0
  (lines.zipIdx).foldl
    (fun v (line, i) => mix v line (taken.getD (2 * i) 0) (taken.getD (2 * i + 1) 0)) v

def littleEndian : List UInt8 → UInt64
  | [] => 0
  | b :: rest => b.toUInt64 ||| (littleEndian rest <<< 8)

def words : List UInt8 → List UInt64
  | p :: q :: r :: s :: t :: u :: v :: w :: rest =>
    littleEndian [p, q, r, s, t, u, v, w] :: words rest
  | [] => []
  | short => [littleEndian short]

def bytesOfNat : Nat → Nat → List UInt8
  | 0, _ => []
  | width + 1, n => UInt8.ofNat n :: bytesOfNat width (n / 256)

/-- Works a block into the state; `count` bytes have been taken with it. -/
def compress (h : Vector UInt64 8) (block : List UInt8) (count : Nat) (last : Bool) :
    Vector UInt64 8 :=
  let v : Vector UInt64 16 := h ++ initial
  let v := v.set 12 (v[12] ^^^ UInt64.ofNat count)
  let v := v.set 13 (v[13] ^^^ UInt64.ofNat (count / 18446744073709551616))
  let v := if last then v.set 14 (v[14] ^^^ 0xffffffffffffffff) else v
  let v := orders.foldl (round (words block).toArray) v
  Vector.ofFn fun i => h[i] ^^^ v[i.val] ^^^ v[i.val + 8]

/-- Takes all bytes; the last block is filled up with zeros. -/
def absorb (h : Vector UInt64 8) (bytes : List UInt8) (count : Nat) : Vector UInt64 8 :=
  if bytes.length ≤ 128 then
    compress h (bytes ++ List.replicate (128 - bytes.length) 0) (count + bytes.length) true
  else
    absorb (compress h (bytes.take 128) (count + 128) false) (bytes.drop 128) (count + 128)
  termination_by bytes.length
  decreasing_by simp; omega

/-- The digest of `size` bytes, at most 64. -/
def hash (size : Nat) (message : List UInt8) : List UInt8 :=
  let h := initial.set 0 (initial[0] ^^^ 0x01010000 ^^^ UInt64.ofNat size)
  ((absorb h message 0).toList.flatMap fun w => bytesOfNat 8 w.toNat).take size

/-- Half of each of a chain of digests, and the whole of the last. -/
def chain (size : Nat) (link : List UInt8) : List UInt8 :=
  if size ≤ 64 then hash size link
  else
    let next := hash 64 link
    next.take 32 ++ chain (size - 32) next
  termination_by size

def hashLong (size : Nat) (message : List UInt8) : List UInt8 :=
  chain size (bytesOfNat 4 size ++ message)

@[simp] theorem length_bytesOfNat (width n : Nat) : (bytesOfNat width n).length = width := by
  induction width generalizing n with
  | zero => rfl
  | succ width ih => simp [bytesOfNat, ih]

theorem length_hash {size : Nat} (h : size ≤ 64) (message : List UInt8) :
    (hash size message).length = size := by
  have hbytes (ws : List UInt64) :
      (ws.flatMap fun w => bytesOfNat 8 w.toNat).length = 8 * ws.length := by
    induction ws with
    | nil => rfl
    | cons w ws ih => simp [ih]; omega
  simp [hash, hbytes]
  omega

@[simp] theorem length_chain (size : Nat) (link : List UInt8) :
    (chain size link).length = size := by
  fun_induction chain size link with
  | case1 size link h => exact length_hash h link
  | case2 size link h next ih =>
    have hnext : next.length = 64 := length_hash (Nat.le_refl _) link
    simp [ih, hnext]
    omega

@[simp] theorem length_hashLong (size : Nat) (message : List UInt8) :
    (hashLong size message).length = size :=
  length_chain _ _

end Giro.Digest.Blake2b
