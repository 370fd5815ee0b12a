import Giro.Proofs.ReadBack

/-!
# Integers that are read

A numeral is a row of digits with a sign in front, which only a number below zero needs. Zeros may
lead. A format reads every numeral of a number that it holds, and refuses the numerals of all others
with the reason that fits: `Format.read_numeral`. It reads no number that it does not hold:
`Format.fits_of_read`.
-/

namespace Giro.Text.Integer

open Json (figures)

/-- The digits spell the number, most significant first. -/
def Spells (cs : List Char) (n : Nat) : Prop :=
  ∃ ds : List Nat, ds ≠ [] ∧ (∀ d ∈ ds, d < 10) ∧ ds.map Nat.digitChar = cs ∧
    ds.foldl (fun acc d => acc * 10 + d) 0 = n

/-- A text that spells an integer. A minus sign stands before no zero. -/
inductive Numeral : List Char → Int → Prop where
  | plain {cs : List Char} {n : Nat} (digits : Spells cs n) : Numeral cs n
  | plus {cs : List Char} {n : Nat} (digits : Spells cs n) : Numeral ('+' :: cs) n
  | minus {cs : List Char} {n : Nat} (digits : Spells cs n) (below : 0 < n) :
      Numeral ('-' :: cs) (-n)

theorem spells_digits (n : Nat) : Spells (digits n) n :=
  ⟨figures n, Json.figures_ne_nil n, fun _ => Json.lt_of_mem_figures, (Json.digits_eq_map n).symm,
    Json.foldl_figures n⟩

/-- The plain decimal text is a numeral. -/
theorem numeral_write (n : Int) : Numeral (write n) n := by
  unfold write
  split
  · rename_i below
    have h := Numeral.minus (spells_digits n.natAbs) (by omega)
    rwa [show -(n.natAbs : Int) = n by omega] at h
  · rename_i above
    have h := Numeral.plain (spells_digits n.natAbs)
    rwa [show (n.natAbs : Int) = n by omega] at h

/-! ## Digits -/

theorem le_foldl_figures (ds : List Nat) (acc : Nat) :
    acc ≤ ds.foldl (fun acc d => acc * 10 + d) acc := by
  induction ds generalizing acc with
  | nil => exact Nat.le_refl acc
  | cons d ds ih =>
    have := ih (acc * 10 + d)
    rw [List.foldl_cons]
    omega

/-- The magnitude only grows, so it has left its limit for good when it leaves it. -/
theorem readDigits_figures {limit acc : Nat} (excess : ReadError) {ds : List Nat}
    (h : ∀ d ∈ ds, d < 10) (hacc : acc ≤ limit) :
    readDigits limit excess (ds.map Nat.digitChar) acc =
      if ds.foldl (fun acc d => acc * 10 + d) acc ≤ limit then
        .ok (ds.foldl (fun acc d => acc * 10 + d) acc)
      else .error excess := by
  induction ds generalizing acc with
  | nil => exact (if_pos hacc).symm
  | cons d ds ih =>
    obtain ⟨hd, hds⟩ := List.forall_mem_cons.mp h
    rw [List.map_cons, readDigits, digit?_digitChar hd, List.foldl_cons]
    by_cases next : acc * 10 + d ≤ limit
    · simp only [if_pos next]
      exact ih hds next
    · have beyond := le_foldl_figures ds (acc * 10 + d)
      simp only [if_neg next]
      rw [if_neg (by omega)]

theorem readDigits_le {limit acc n : Nat} {excess : ReadError} {cs : List Char}
    (h : readDigits limit excess cs acc = .ok n) (hacc : acc ≤ limit) : n ≤ limit := by
  induction cs generalizing acc with
  | nil =>
    cases h
    exact hacc
  | cons c cs ih =>
    rw [readDigits] at h
    split at h
    · cases h
    · split at h
      · exact ih h ‹_›
      · cases h

/-- What is read from digits stays within the limit, whatever is made of it. -/
theorem exists_of_readDigits_map {limit : Nat} {excess : ReadError} {cs : List Char}
    {sign : Nat → Int} {n : Int} (h : (readDigits limit excess cs 0).map sign = .ok n) :
    ∃ m ≤ limit, sign m = n := by
  cases digits : readDigits limit excess cs 0 with
  | error why =>
    rw [digits] at h
    cases h
  | ok m =>
    rw [digits] at h
    exact ⟨m, readDigits_le digits (Nat.zero_le limit), Except.ok.inj h⟩

namespace Spells

variable {cs : List Char} {n : Nat}

theorem readDigits_eq (h : Spells cs n) (limit : Nat) (excess : ReadError) :
    readDigits limit excess cs 0 = if n ≤ limit then .ok n else .error excess := by
  obtain ⟨ds, _, hds, rfl, rfl⟩ := h
  exact readDigits_figures excess hds (Nat.zero_le limit)

/-- A row of digits is not empty, and starts with no sign. -/
theorem exists_cons (h : Spells cs n) : ∃ c rest, cs = c :: rest ∧ c ≠ '+' ∧ c ≠ '-' := by
  obtain ⟨ds, nonempty, hds, rfl, _⟩ := h
  obtain ⟨d, rest, rfl⟩ := List.exists_cons_of_ne_nil nonempty
  have unsigned : ∀ d : Fin 10, Nat.digitChar d ≠ '+' ∧ Nat.digitChar d ≠ '-' := by decide
  exact ⟨_, _, List.map_cons, unsigned ⟨d, hds d List.mem_cons_self⟩⟩

end Spells

/-! ## Numerals -/

namespace Format

variable (f : Format)

theorem read_unsigned {c : Char} (plus : c ≠ '+') (minus : c ≠ '-') (rest : List Char) :
    f.read (c :: rest) = (readDigits f.highest.natAbs .tooLarge (c :: rest) 0).map Int.ofNat := by
  unfold read
  split <;> simp_all

theorem read_plus (c : Char) (rest : List Char) : f.read ('+' :: c :: rest) =
    (readDigits f.highest.natAbs .tooLarge (c :: rest) 0).map Int.ofNat :=
  rfl

theorem read_minus (c : Char) (rest : List Char) : f.read ('-' :: c :: rest) =
    if f.lowest < 0 then
      (readDigits f.lowest.natAbs .tooSmall (c :: rest) 0).map fun n => -(Int.ofNat n)
    else .error .invalidDigit :=
  rfl

theorem fits_natCast_iff {n : Nat} : f.Fits n ↔ n ≤ f.highest.natAbs := by
  have low := f.lowest_le
  have high := f.le_highest
  unfold Fits
  omega

theorem fits_neg_natCast_iff {n : Nat} : f.Fits (-n) ↔ n ≤ f.lowest.natAbs := by
  have low := f.lowest_le
  have high := f.le_highest
  unfold Fits
  omega

/-- What is said of a numeral whose number the format does not hold. -/
def complaint (n : Int) : ReadError :=
  if 0 ≤ n then .tooLarge else if f.lowest < 0 then .tooSmall else .invalidDigit

theorem complaint_natCast (n : Nat) : f.complaint n = .tooLarge := if_pos (Int.natCast_nonneg n)

theorem complaint_neg_natCast {n : Nat} (h : 0 < n) :
    f.complaint (-n) = if f.lowest < 0 then .tooSmall else .invalidDigit :=
  if_neg (by omega)

theorem read_numeral {t : List Char} {n : Int} (h : Numeral t n) :
    f.read t = if f.Fits n then .ok n else .error (f.complaint n) := by
  cases h with
  | plain digits =>
    obtain ⟨c, rest, rfl, plus, minus⟩ := digits.exists_cons
    rw [f.read_unsigned plus minus, digits.readDigits_eq, complaint_natCast]
    simp only [fits_natCast_iff]
    split <;> rfl
  | plus digits =>
    obtain ⟨c, rest, rfl, _⟩ := digits.exists_cons
    rw [read_plus, digits.readDigits_eq, complaint_natCast]
    simp only [fits_natCast_iff]
    split <;> rfl
  | @minus _ m digits below =>
    obtain ⟨c, rest, rfl, _⟩ := digits.exists_cons
    rw [read_minus, digits.readDigits_eq, f.complaint_neg_natCast below]
    simp only [fits_neg_natCast_iff]
    by_cases signed : f.lowest < 0
    · simp only [if_pos signed]
      split <;> rfl
    · have low := f.lowest_le
      have beyond : ¬ m ≤ f.lowest.natAbs := by omega
      rw [if_neg signed, if_neg beyond, if_neg signed]

theorem fits_of_read {t : List Char} {n : Int} (h : f.read t = .ok n) : f.Fits n := by
  have above {cs : List Char}
      (h : (readDigits f.highest.natAbs .tooLarge cs 0).map Int.ofNat = .ok n) : f.Fits n := by
    obtain ⟨m, small, rfl⟩ := exists_of_readDigits_map h
    exact f.fits_natCast_iff.mpr small
  unfold Format.read at h
  split at h
  · cases h
  · cases h
  · cases h
  · exact above h
  · split at h
    · obtain ⟨m, small, rfl⟩ := exists_of_readDigits_map h
      exact f.fits_neg_natCast_iff.mpr small
    · cases h
  · exact above h

end Format

end Giro.Text.Integer
