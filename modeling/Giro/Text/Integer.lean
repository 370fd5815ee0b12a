/-!
# Integers in decimal

`Integer.write` is the plain decimal text. `Integer.Format.read` also takes a plus sign and leading
zeros, and stops at the first character that is no digit or that leads out of range.
`Format.read_write` ties the two together.
-/

namespace Giro.Text

namespace Integer

/-- The digits of a number, most significant first. -/
def digits (n : Nat) : List Char :=
  if n < 10 then [Nat.digitChar n] else digits (n / 10) ++ [Nat.digitChar (n % 10)]

def write (n : Int) : List Char :=
  if n < 0 then '-' :: digits n.natAbs else digits n.natAbs

/-- Why a text is not an integer of the wanted range. -/
inductive ReadError where
  | empty
  | invalidDigit
  | tooLarge
  | tooSmall
  deriving DecidableEq

def ReadError.message : ReadError → String
  | .empty => "cannot parse integer from empty string"
  | .invalidDigit => "invalid digit found in string"
  | .tooLarge => "number too large to fit in target type"
  | .tooSmall => "number too small to fit in target type"

/-- The integers that a field can hold. -/
structure Format where
  lowest : Int
  highest : Int
  lowest_le : lowest ≤ 0 := by omega
  le_highest : 0 ≤ highest := by omega

namespace Format

def signed64 : Format := ⟨-9223372036854775808, 9223372036854775807, by omega, by omega⟩

def unsigned16 : Format := ⟨0, 65535, by omega, by omega⟩

def unsigned32 : Format := ⟨0, 4294967295, by omega, by omega⟩

def unsigned64 : Format := ⟨0, 18446744073709551615, by omega, by omega⟩

def Fits (f : Format) (n : Int) : Prop := f.lowest ≤ n ∧ n ≤ f.highest

instance (f : Format) (n : Int) : Decidable (f.Fits n) := inferInstanceAs (Decidable (_ ∧ _))

end Format

def digit? (c : Char) : Option Nat :=
  if '0' ≤ c ∧ c ≤ '9' then some (c.toNat - '0'.toNat) else none

/-- Appends the digits to a magnitude that must stay at most `limit`. -/
def readDigits (limit : Nat) (excess : ReadError) : List Char → Nat → Except ReadError Nat
  | [], acc => .ok acc
  | c :: cs, acc =>
    match digit? c with
    | none => .error .invalidDigit
    | some d =>
      if acc * 10 + d ≤ limit then readDigits limit excess cs (acc * 10 + d) else .error excess

namespace Format

/-- A minus sign is read only where negative numbers exist. -/
def read (f : Format) : List Char → Except ReadError Int
  | [] => .error .empty
  | ['+'] => .error .invalidDigit
  | ['-'] => .error .invalidDigit
  | '+' :: cs => (readDigits f.highest.natAbs .tooLarge cs 0).map Int.ofNat
  | '-' :: cs =>
    if f.lowest < 0 then (readDigits f.lowest.natAbs .tooSmall cs 0).map fun n => -(Int.ofNat n)
    else .error .invalidDigit
  | cs => (readDigits f.highest.natAbs .tooLarge cs 0).map Int.ofNat

end Format

/-! ## What is written is read back -/

theorem digit?_digitChar {d : Nat} (h : d < 10) : digit? (Nat.digitChar d) = some d := by
  have : ∀ d : Fin 10, digit? (Nat.digitChar d) = some d.val := by decide
  exact this ⟨d, h⟩

theorem readDigits_append (limit : Nat) (excess : ReadError) (xs ys : List Char) (acc : Nat) :
    readDigits limit excess (xs ++ ys) acc =
      (readDigits limit excess xs acc).bind (readDigits limit excess ys) := by
  induction xs generalizing acc with
  | nil => rfl
  | cons x xs ih =>
    simp only [List.cons_append, readDigits]
    cases digit? x with
    | none => rfl
    | some d =>
      dsimp only
      split
      · exact ih _
      · rfl

theorem readDigits_digits {limit n : Nat} (excess : ReadError) (h : n ≤ limit) :
    readDigits limit excess (digits n) 0 = .ok n := by
  fun_induction digits n with
  | case1 n hn => simp [readDigits, digit?_digitChar hn, h]
  | case2 n hn ih =>
    rw [readDigits_append, ih (by omega)]
    simp only [Except.bind, readDigits, digit?_digitChar (Nat.mod_lt n (by omega : 0 < 10))]
    rw [if_pos (by omega)]
    congr 1
    omega

theorem digits_ne_nil (n : Nat) : digits n ≠ [] := by
  unfold digits
  split <;> simp

theorem isDigit_of_mem_digits {n : Nat} {c : Char} (h : c ∈ digits n) : (digit? c).isSome := by
  fun_induction digits n with
  | case1 n hn =>
    rw [List.mem_singleton] at h
    rw [h, digit?_digitChar hn]; rfl
  | case2 n hn ih =>
    rcases List.mem_append.mp h with h | h
    · exact ih h
    · rw [List.mem_singleton] at h
      rw [h, digit?_digitChar (Nat.mod_lt n (by omega))]; rfl

theorem Format.read_write (f : Format) {n : Int} (h : f.Fits n) : f.read (write n) = .ok n := by
  obtain ⟨hlo, hhi⟩ := h
  have hne := digits_ne_nil n.natAbs
  have hdig : ∀ c ∈ digits n.natAbs, (digit? c).isSome := fun c hc => isDigit_of_mem_digits hc
  unfold write
  split
  · rename_i hneg
    have hlow : f.lowest < 0 := by omega
    cases hd : digits n.natAbs with
    | nil => exact absurd hd hne
    | cons c cs =>
      simp only [read, hlow, if_true]
      rw [← hd, readDigits_digits _ (by omega)]
      simp only [Except.map, Except.ok.injEq, Int.ofNat_eq_natCast]
      omega
  · rename_i hpos
    have hread : readDigits f.highest.natAbs .tooLarge (digits n.natAbs) 0 = .ok n.natAbs :=
      readDigits_digits _ (by omega)
    have hback : (Int.ofNat n.natAbs) = n := by simp; omega
    revert hread hdig hne
    cases digits n.natAbs with
    | nil => intro hne; exact absurd rfl hne
    | cons c cs =>
      intro _ hdig hread
      have hc := hdig c List.mem_cons_self
      have hplus : c ≠ '+' := by rintro rfl; revert hc; decide
      have hminus : c ≠ '-' := by rintro rfl; revert hc; decide
      unfold read
      split <;> simp_all [Except.map]

end Integer
end Giro.Text
