/-!
# Amounts of money

An amount is a signed 64-bit number of the smallest unit of its currency. Sums are exact: a sum that
leaves the 64-bit range is refused, never wrapped. `Amount.add?_eq_some_iff` states a sum in the
integers, and is what later modules use instead of the definition.
-/

namespace Giro

abbrev Amount := Int64

namespace Amount

/-- The integers that an amount can hold. -/
def InRange (n : Int) : Prop := -9223372036854775808 ≤ n ∧ n ≤ 9223372036854775807

instance (n : Int) : Decidable (InRange n) := inferInstanceAs (Decidable (_ ∧ _))

/-- The exact sum, or nothing when it is out of range. -/
def add? (a b : Amount) : Option Amount :=
  if InRange (a.toInt + b.toInt) then some (Int64.ofInt (a.toInt + b.toInt)) else none

theorem inRange_toInt (a : Amount) : InRange a.toInt :=
  ⟨a.le_toInt, Int.le_of_lt_add_one a.toInt_lt⟩

theorem toInt_ofInt {n : Int} (h : InRange n) : (Int64.ofInt n).toInt = n :=
  Int64.toInt_ofInt_of_le h.1 (Int.lt_add_one_of_le h.2)

theorem add?_eq_some_iff {a b c : Amount} : add? a b = some c ↔ c.toInt = a.toInt + b.toInt := by
  unfold add?
  constructor
  · intro h
    split at h
    · rename_i hr
      cases h
      exact toInt_ofInt hr
    · cases h
  · intro h
    have hr : InRange (a.toInt + b.toInt) := h ▸ inRange_toInt c
    rw [if_pos hr, ← h, Int64.ofInt_toInt]

theorem add?_eq_none_iff {a b : Amount} : add? a b = none ↔ ¬ InRange (a.toInt + b.toInt) := by
  unfold add?
  split <;> simp_all

/-- The opposite of a positive amount is always an amount. -/
theorem toInt_neg_of_pos {a : Amount} (h : 0 < a.toInt) : (-a).toInt = -a.toInt := by
  have hlt := a.toInt_lt
  rw [Int64.toInt_neg]
  exact Int.bmod_eq_of_le (by omega) (by omega)

end Amount
end Giro
