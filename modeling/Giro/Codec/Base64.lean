/-!
# Base64 without padding

Three bytes are four symbols; one or two bytes left over are two or three symbols whose unused bits
are zero. Reading is strict: no padding, no other symbol, and unused bits must be zero. What is
written is read back, as `decode_encode` states for alphabets whose symbols can be told apart.
-/

namespace Giro.Codec.Base64

/-- The two symbols in which the alphabets differ. -/
structure Alphabet where
  symbol62 : Char
  symbol63 : Char

/-- The alphabet that is safe in addresses. -/
def Alphabet.url : Alphabet := ⟨'-', '_'⟩

def Alphabet.standard : Alphabet := ⟨'+', '/'⟩

variable (a : Alphabet)

def Alphabet.symbol (n : Nat) : Char :=
  if n < 26 then Char.ofNat (n + 65)
  else if n < 52 then Char.ofNat (n + 71)
  else if n < 62 then Char.ofNat (n - 4)
  else if n = 62 then a.symbol62
  else a.symbol63

def Alphabet.value? (c : Char) : Option Nat :=
  if 'A' ≤ c ∧ c ≤ 'Z' then some (c.toNat - 65)
  else if 'a' ≤ c ∧ c ≤ 'z' then some (c.toNat - 71)
  else if '0' ≤ c ∧ c ≤ '9' then some (c.toNat + 4)
  else if c = a.symbol62 then some 62
  else if c = a.symbol63 then some 63
  else none

def encode : List UInt8 → List Char
  | [] => []
  | [x] => [a.symbol (x.toNat / 4), a.symbol (x.toNat % 4 * 16)]
  | [x, y] =>
    [a.symbol (x.toNat / 4), a.symbol (x.toNat % 4 * 16 + y.toNat / 16),
      a.symbol (y.toNat % 16 * 4)]
  | x :: y :: z :: rest =>
    a.symbol (x.toNat / 4) :: a.symbol (x.toNat % 4 * 16 + y.toNat / 16) ::
      a.symbol (y.toNat % 16 * 4 + z.toNat / 64) :: a.symbol (z.toNat % 64) :: encode rest

/-- Joins symbol values to bytes. -/
def ofValues : List Nat → Option (List UInt8)
  | [] => some []
  | [_] => none
  | [p, q] => if q % 16 = 0 then some [UInt8.ofNat (p * 4 + q / 16)] else none
  | [p, q, r] =>
    if r % 4 = 0 then some [UInt8.ofNat (p * 4 + q / 16), UInt8.ofNat (q % 16 * 16 + r / 4)]
    else none
  | p :: q :: r :: s :: rest =>
    (ofValues rest).map fun bytes =>
      UInt8.ofNat (p * 4 + q / 16) :: UInt8.ofNat (q % 16 * 16 + r / 4) ::
        UInt8.ofNat (r % 4 * 64 + s) :: bytes

def decode (cs : List Char) : Option (List UInt8) :=
  (cs.mapM a.value?).bind ofValues

/-! ## What is written is read back -/

/-- An alphabet whose symbols can be told apart. -/
structure Alphabet.Proper (a : Alphabet) : Prop where
  value?_symbol : ∀ n < 64, a.value? (a.symbol n) = some n

theorem Alphabet.proper_url : Alphabet.url.Proper := ⟨by decide⟩

theorem Alphabet.proper_standard : Alphabet.standard.Proper := ⟨by decide⟩

variable {a : Alphabet}

/-- The values of the symbols that spell bytes. -/
def values : List UInt8 → List Nat
  | [] => []
  | [x] => [x.toNat / 4, x.toNat % 4 * 16]
  | [x, y] => [x.toNat / 4, x.toNat % 4 * 16 + y.toNat / 16, y.toNat % 16 * 4]
  | x :: y :: z :: rest =>
    x.toNat / 4 :: (x.toNat % 4 * 16 + y.toNat / 16) :: (y.toNat % 16 * 4 + z.toNat / 64) ::
      z.toNat % 64 :: values rest

theorem length_values (bytes : List UInt8) :
    (values bytes).length = (4 * bytes.length + 2) / 3 := by
  fun_induction values bytes with
  | case4 x y z rest ih =>
    simp only [List.length_cons, ih]
    omega
  | _ => simp

theorem encode_eq_map (bytes : List UInt8) : encode a bytes = (values bytes).map a.symbol := by
  fun_induction values bytes with
  | case4 x y z rest ih => simp [encode, ih]
  | _ => rfl

theorem lt_of_mem_values {bytes : List UInt8} {n : Nat} (h : n ∈ values bytes) : n < 64 := by
  fun_induction values bytes with
  | case1 => cases h
  | case2 x =>
    have := x.toNat_lt
    simp at h
    omega
  | case3 x y =>
    have := x.toNat_lt
    have := y.toNat_lt
    simp at h
    omega
  | case4 x y z rest ih =>
    have := x.toNat_lt
    have := y.toNat_lt
    have := z.toNat_lt
    simp at h
    rcases h with h | h | h | h | h
    all_goals first | exact ih h | omega

theorem ofValues_values (bytes : List UInt8) : ofValues (values bytes) = some bytes := by
  have byte (x : UInt8) {n : Nat} (h : n = x.toNat) : UInt8.ofNat n = x := by
    rw [h, UInt8.ofNat_toNat]
  fun_induction values bytes with
  | case1 => rfl
  | case2 x =>
    have := x.toNat_lt
    rw [ofValues, if_pos (by omega), byte x (by omega)]
  | case3 x y =>
    have := y.toNat_lt
    rw [ofValues, if_pos (by omega), byte x (by omega), byte y (by omega)]
  | case4 x y z rest ih =>
    have := y.toNat_lt
    have := z.toNat_lt
    rw [ofValues, ih, Option.map_some, byte x (by omega), byte y (by omega), byte z (by omega)]

theorem mapM_value?_symbol (proper : a.Proper) {ns : List Nat} (h : ∀ n ∈ ns, n < 64) :
    (ns.map a.symbol).mapM a.value? = some ns := by
  induction ns with
  | nil => rfl
  | cons n ns ih =>
    simp [proper.value?_symbol n (h n List.mem_cons_self),
      ih fun m hm => h m (List.mem_cons_of_mem _ hm)]

theorem decode_encode (proper : a.Proper) (bytes : List UInt8) :
    decode a (encode a bytes) = some bytes := by
  rw [decode, encode_eq_map, mapM_value?_symbol proper fun n => lt_of_mem_values]
  exact ofValues_values bytes

/-- What no symbol is, is not part of a spelling. -/
theorem not_mem_encode {c : Char} (h : ∀ n < 64, a.symbol n ≠ c) (bytes : List UInt8) :
    c ∉ encode a bytes := by
  rw [encode_eq_map]
  intro hc
  obtain ⟨n, hn, hsymbol⟩ := List.mem_map.mp hc
  exact h n (lt_of_mem_values hn) hsymbol

end Giro.Codec.Base64
