/-!
# SHA-256 and its keyed form

The message is padded with a one bit, zeros and its length in bits to blocks of 64 bytes, and each
block is worked into eight 32-bit words. The keyed form hashes the message between two paddings of
the key.
-/

namespace Giro.Digest.Sha256

structure State where
  a : UInt32
  b : UInt32
  c : UInt32
  d : UInt32
  e : UInt32
  f : UInt32
  g : UInt32
  h : UInt32

def State.initial : State :=
  ⟨0x6a09e667, 0xbb67ae85, 0x3c6ef372, 0xa54ff53a, 0x510e527f, 0x9b05688c, 0x1f83d9ab, 0x5be0cd19⟩

def State.add (x y : State) : State :=
  ⟨x.a + y.a, x.b + y.b, x.c + y.c, x.d + y.d, x.e + y.e, x.f + y.f, x.g + y.g, x.h + y.h⟩

def roundConstants : List UInt32 := [
  0x428a2f98, 0x71374491, 0xb5c0fbcf, 0xe9b5dba5, 0x3956c25b, 0x59f111f1, 0x923f82a4, 0xab1c5ed5,
  0xd807aa98, 0x12835b01, 0x243185be, 0x550c7dc3, 0x72be5d74, 0x80deb1fe, 0x9bdc06a7, 0xc19bf174,
  0xe49b69c1, 0xefbe4786, 0x0fc19dc6, 0x240ca1cc, 0x2de92c6f, 0x4a7484aa, 0x5cb0a9dc, 0x76f988da,
  0x983e5152, 0xa831c66d, 0xb00327c8, 0xbf597fc7, 0xc6e00bf3, 0xd5a79147, 0x06ca6351, 0x14292967,
  0x27b70a85, 0x2e1b2138, 0x4d2c6dfc, 0x53380d13, 0x650a7354, 0x766a0abb, 0x81c2c92e, 0x92722c85,
  0xa2bfe8a1, 0xa81a664b, 0xc24b8b70, 0xc76c51a3, 0xd192e819, 0xd6990624, 0xf40e3585, 0x106aa070,
  0x19a4c116, 0x1e376c08, 0x2748774c, 0x34b0bcb5, 0x391c0cb3, 0x4ed8aa4a, 0x5b9cca4f, 0x682e6ff3,
  0x748f82ee, 0x78a5636f, 0x84c87814, 0x8cc70208, 0x90befffa, 0xa4506ceb, 0xbef9a3f7, 0xc67178f2]

def rotateRight (x n : UInt32) : UInt32 := (x >>> n) ||| (x <<< (32 - n))

def State.round (s : State) (k w : UInt32) : State :=
  let sum1 := rotateRight s.e 6 ^^^ rotateRight s.e 11 ^^^ rotateRight s.e 25
  let choice := (s.e &&& s.f) ^^^ ((~~~ s.e) &&& s.g)
  let t1 := s.h + sum1 + choice + k + w
  let sum0 := rotateRight s.a 2 ^^^ rotateRight s.a 13 ^^^ rotateRight s.a 22
  let majority := (s.a &&& s.b) ^^^ (s.a &&& s.c) ^^^ (s.b &&& s.c)
  ⟨t1 + (sum0 + majority), s.a, s.b, s.c, s.d + t1, s.e, s.f, s.g⟩

def bigEndian : List UInt8 → UInt32
  | [] => 0
  | b :: rest => b.toUInt32 <<< (UInt32.ofNat (8 * rest.length)) ||| bigEndian rest

/-- The words of a block, most significant byte first. -/
def words (block : List UInt8) : List UInt32 :=
  match block with
  | p :: q :: r :: s :: rest => bigEndian [p, q, r, s] :: words rest
  | _ => []

/-- The sixteen words of a block followed by the 48 that are mixed from them. -/
def schedule (block : List UInt8) : Array UInt32 :=
  (List.range 48).foldl (fun w i =>
    let x := w.getD (i + 1) 0
    let y := w.getD (i + 14) 0
    let sigma0 := rotateRight x 7 ^^^ rotateRight x 18 ^^^ (x >>> 3)
    let sigma1 := rotateRight y 17 ^^^ rotateRight y 19 ^^^ (y >>> 10)
    w.push (w.getD i 0 + sigma0 + w.getD (i + 9) 0 + sigma1)) (words block).toArray

def State.absorb (s : State) (block : List UInt8) : State :=
  s.add ((roundConstants.zip (schedule block).toList).foldl (fun s (k, w) => s.round k w) s)

def bytesOfNat : Nat → Nat → List UInt8
  | 0, _ => []
  | width + 1, n => bytesOfNat width (n / 256) ++ [UInt8.ofNat n]

def pad (message : List UInt8) : List UInt8 :=
  message ++ 0x80 :: List.replicate ((119 - message.length % 64) % 64) 0 ++
    bytesOfNat 8 (8 * message.length)

def absorbAll (s : State) (bytes : List UInt8) : State :=
  if bytes.isEmpty then s else absorbAll (s.absorb (bytes.take 64)) (bytes.drop 64)
  termination_by bytes.length
  decreasing_by
    have : 0 < bytes.length := List.length_pos_iff.mpr fun h => by simp_all
    rw [List.length_drop]
    omega

def State.bytes (s : State) : List UInt8 :=
  [s.a, s.b, s.c, s.d, s.e, s.f, s.g, s.h].flatMap fun w => bytesOfNat 4 w.toNat

def hash (message : List UInt8) : List UInt8 := (absorbAll .initial (pad message)).bytes

/-- A key as one block: a long key is hashed first, a short one is followed by zeros. -/
def keyBlock (key : List UInt8) : List UInt8 :=
  let key := if key.length ≤ 64 then key else hash key
  key ++ List.replicate (64 - key.length) 0

def hmac (key message : List UInt8) : List UInt8 :=
  let block := keyBlock key
  hash (block.map (· ^^^ 0x5c) ++ hash (block.map (· ^^^ 0x36) ++ message))

@[simp] theorem length_bytesOfNat (width n : Nat) : (bytesOfNat width n).length = width := by
  induction width generalizing n with
  | zero => rfl
  | succ width ih => simp [bytesOfNat, ih]

@[simp] theorem length_hash (message : List UInt8) : (hash message).length = 32 := by
  simp [hash, State.bytes]

@[simp] theorem length_hmac (key message : List UInt8) : (hmac key message).length = 32 := by
  simp [hmac]

end Giro.Digest.Sha256
