import Mathlib.Algebra.Group.Nat.Defs
import Giro.Proofs.Numerals
import Giro.Text.Calendar
import Giro.Text.Fields

/-!
# Dates that are read back

A day number is shown as year, month and day, and is found again from these by counting the days
before the year and before the month: `Calendar.dayOf_civil`. With the time of day and the decimal
places a text tells the whole moment, to the nanosecond: `Timestamp.ofText?_text`.
-/

namespace Giro

namespace Text

theorem cut?_append {separator : Char} {before : List Char} (h : separator ∉ before)
    (after : List Char) : cut? separator (before ++ separator :: after) = some (before, after) := by
  induction before with
  | nil => simp [cut?]
  | cons c before ih =>
    simp only [List.mem_cons, not_or] at h
    simp [cut?, Ne.symm h.1, ih h.2]

theorem cut?_of_not_mem {separator : Char} {cs : List Char} (h : separator ∉ cs) :
    cut? separator cs = none := by
  induction cs with
  | nil => rfl
  | cons c cs ih =>
    simp only [List.mem_cons, not_or] at h
    simp [cut?, Ne.symm h.1, ih h.2]

namespace Integer

/-- The number that a row of digits stands for. -/
def natural? (cs : List Char) : Option Nat :=
  (cs.mapM digit?).map fun ds => ds.foldl (fun acc d => acc * 10 + d) 0

/-- The number in front of a separator, and what follows. -/
def naturalBefore? (separator : Char) (cs : List Char) : Option (Nat × List Char) := do
  let (cs, rest) ← cut? separator cs
  let n ← natural? cs
  return (n, rest)

namespace Spells

variable {cs : List Char} {n : Nat}

theorem natural?_eq (h : Spells cs n) : natural? cs = some n := by
  obtain ⟨ds, _, hds, rfl, rfl⟩ := h
  have read : (ds.map Nat.digitChar).mapM digit? = some ds := by
    clear * - hds
    induction ds with
    | nil => rfl
    | cons d ds ih =>
      obtain ⟨hd, hds⟩ := List.forall_mem_cons.mp hds
      rw [List.map_cons, List.mapM_cons, digit?_digitChar hd, ih hds]
      rfl
  rw [natural?, read]
  rfl

theorem not_mem (h : Spells cs n) {separator : Char} (hs : digit? separator = none) :
    separator ∉ cs := by
  obtain ⟨ds, _, hds, rfl, _⟩ := h
  intro hmem
  obtain ⟨d, hd, rfl⟩ := List.mem_map.mp hmem
  rw [digit?_digitChar (hds d hd)] at hs
  cases hs

theorem naturalBefore?_append (h : Spells cs n) {separator : Char} (hs : digit? separator = none)
    (rest : List Char) : naturalBefore? separator (cs ++ separator :: rest) = some (n, rest) := by
  rw [naturalBefore?, cut?_append (h.not_mem hs)]
  change (natural? cs).bind _ = _
  rw [h.natural?_eq]
  rfl

end Spells

/-- So many digits are enough for a number below that power of ten. -/
theorem length_digits_le {width n : Nat} (positive : 0 < width) (h : n < 10 ^ width) :
    (digits n).length ≤ width := by
  induction width generalizing n with
  | zero => cases positive
  | succ width ih =>
    unfold digits
    split
    · exact Nat.succ_le_succ (Nat.zero_le width)
    · rename_i many
      have fewer : n / 10 < 10 ^ width := Nat.div_lt_of_lt_mul (by rwa [← Nat.pow_succ'])
      have one : 0 < width := by
        rcases Nat.eq_zero_or_pos width with rfl | one
        · omega
        · exact one
      have := ih one fewer
      rw [List.length_append, List.length_singleton]
      omega

end Integer
end Text

open Text

namespace Calendar

/-! ## Years and months -/

/-- The year in which a day lies, of 400 years that start with a March. -/
def yearOfEra (n : Nat) : Nat := (n - n / 1460 + n / 36524 - n / 146096) / 365

/-- The days of the years before. -/
def daysBefore (y : Nat) : Nat := 365 * y + y / 4 - y / 100

theorem exists_century {n : Nat} (h : n < 146096) : ∃ c m, c ≤ 3 ∧ m < 36524 ∧ n = 36524 * c + m :=
  ⟨n / 36524, n % 36524, by omega⟩

theorem exists_fourYears {n : Nat} (h : n < 36524) :
    ∃ q k, q ≤ 24 ∧ k ≤ 1460 ∧ n = 1461 * q + k :=
  ⟨n / 1461, n % 1461, by omega⟩

/-- The leap day is the last of four years. -/
theorem exists_year {n : Nat} (h : n ≤ 1460) :
    ∃ t r, t ≤ 3 ∧ r ≤ 365 ∧ (r = 365 → t = 3) ∧ n = 365 * t + r := by
  by_cases last : n = 1460
  · exact ⟨3, 365, by omega⟩
  · exact ⟨n / 365, n % 365, by omega⟩

theorem yearOfEra_eq {c q t r : Nat} (hc : c ≤ 3) (hq : q ≤ 24) (ht : t ≤ 3) (hr : r ≤ 365)
    (leap : r = 365 → t = 3) (inside : 1461 * q + (365 * t + r) < 36524) :
    yearOfEra (36524 * c + (1461 * q + (365 * t + r))) = 100 * c + 4 * q + t := by
  unfold yearOfEra
  generalize hm : 1461 * q + (365 * t + r) = m at inside ⊢
  have century : (36524 * c + m) / 36524 = c ∧ (36524 * c + m) / 146096 = 0 := by omega
  have span : (36524 * c + m) / 1460 = 25 * c + q + (24 * c + q + (365 * t + r)) / 1460 := by omega
  rw [century.1, century.2, span]
  by_cases last : r = 365
  · obtain rfl := leap last
    subst last
    have carry : (24 * c + q + (365 * 3 + 365)) / 1460 = 1 := by omega
    omega
  · have carry : (24 * c + q + (365 * t + r)) / 1460 ≤ 1 := by omega
    have first : r = 0 → (24 * c + q + (365 * t + r)) / 1460 = 0 := by omega
    omega

theorem daysBefore_eq {c q t : Nat} (hq : q ≤ 24) (ht : t ≤ 3) :
    daysBefore (100 * c + 4 * q + t) = 36524 * c + (1461 * q + 365 * t) := by
  unfold daysBefore
  omega

/-- A day lies in its year. -/
theorem within_yearOfEra {n : Nat} (h : n < 146097) : yearOfEra n < 400 ∧
    daysBefore (yearOfEra n) ≤ n ∧ n ≤ daysBefore (yearOfEra n) + 365 := by
  by_cases last : n = 146096
  · subst last
    decide
  · obtain ⟨c, m, hc, hm, rfl⟩ := exists_century (n := n) (by omega)
    obtain ⟨q, k, hq, hk, rfl⟩ := exists_fourYears hm
    obtain ⟨t, r, ht, hr, leap, rfl⟩ := exists_year hk
    rw [yearOfEra_eq hc hq ht hr leap hm, daysBefore_eq hq ht]
    omega

/-- Year, month and day of a day of a year, of 400 years that start with a March. -/
def date (era : Int) (year day : Nat) : Int × Nat × Nat :=
  let shifted := (5 * day + 2) / 153
  let month := if shifted < 10 then shifted + 3 else shifted - 9
  ((year : Int) + era * 400 + if month ≤ 2 then 1 else 0, month, day - (153 * shifted + 2) / 5 + 1)

theorem civil_eq_date (n : Int) : ∃ (era : Int) (day : Nat), day < 146097 ∧
    n = era * 146097 + day - 719468 ∧
    civil n = date era (yearOfEra day) (day - daysBefore (yearOfEra day)) := by
  refine ⟨(n + 719468).fdiv 146097, (n + 719468 - (n + 719468).fdiv 146097 * 146097).toNat,
    ?_, ?_, rfl⟩
  · rw [Int.fdiv_eq_ediv_of_nonneg _ (by decide)]
    omega
  · rw [Int.fdiv_eq_ediv_of_nonneg _ (by decide)]
    omega

/-- The number of a day whose month is counted from March, and whose year starts with it. -/
def dayOfMarches (year : Int) (months day : Nat) : Int :=
  365 * year + year / 4 - year / 100 + year / 400 + ((153 * months + 2) / 5 + day : Nat) - 719469

/-- The number of a day, counted from the start of 1970. -/
def dayOf (year : Int) (month day : Nat) : Int :=
  if month ≤ 2 then dayOfMarches (year - 1) (month + 9) day else dayOfMarches year (month - 3) day

theorem dayOfMarches_eq {year : Nat} (era : Int) (months day : Nat) (h : year < 400) :
    dayOfMarches (year + era * 400) months day =
      era * 146097 + (daysBefore year + (153 * months + 2) / 5 + day : Nat) - 719469 := by
  unfold dayOfMarches daysBefore
  omega

theorem dayOf_date (era : Int) {year day : Nat} (hyear : year < 400) (hday : day ≤ 365) :
    dayOf (date era year day).1 (date era year day).2.1 (date era year day).2.2 =
      era * 146097 + (daysBefore year + day : Nat) - 719468 := by
  unfold date
  generalize hmonths : (5 * day + 2) / 153 = months
  have begun : (153 * months + 2) / 5 ≤ day := by omega
  by_cases spring : months < 10
  · have late : ¬ months + 3 ≤ 2 := by omega
    simp only [if_pos spring, if_neg late, dayOf, Int.add_zero, Nat.add_sub_cancel]
    rw [dayOfMarches_eq era _ _ hyear]
    omega
  · have early : months - 9 ≤ 2 := by omega
    have again : months - 9 + 9 = months := by omega
    simp only [if_neg spring, if_pos early, dayOf, Int.add_sub_cancel, again]
    rw [dayOfMarches_eq era _ _ hyear]
    omega

theorem dayOf_civil (n : Int) : dayOf (civil n).1 (civil n).2.1 (civil n).2.2 = n := by
  obtain ⟨era, day, inside, hn, same⟩ := civil_eq_date n
  obtain ⟨small, begun, ended⟩ := within_yearOfEra inside
  rw [same, dayOf_date era small (by omega), Nat.add_sub_cancel' begun]
  exact hn.symm

/-! ## Numbers in dates -/

/-- Zeros may lead. -/
theorem spells_padded (width n : Nat) : Integer.Spells (padded width n) n := by
  obtain ⟨ds, nonempty, hds, digits, value⟩ := Integer.spells_digits n
  let zeros := List.replicate (width - (Integer.digits n).length) 0
  refine ⟨zeros ++ ds, by simp [nonempty], ?_, ?_, ?_⟩
  · intro d hd
    rcases List.mem_append.mp hd with hd | hd
    · rw [List.eq_of_mem_replicate hd]
      decide
    · exact hds d hd
  · rw [List.map_append, digits, List.map_replicate]
    rfl
  · have nothing (k : Nat) : (List.replicate k 0).foldl (fun acc d => acc * 10 + d) 0 = 0 := by
      induction k with
      | zero => rfl
      | succ k ih => exact ih
    rw [List.foldl_append, nothing, value]

theorem naturalBefore?_padded (separator : Char) (hs : Integer.digit? separator = none)
    (width n : Nat) (rest : List Char) :
    Integer.naturalBefore? separator (padded width n ++ separator :: rest) = some (n, rest) :=
  (spells_padded width n).naturalBefore?_append hs rest

theorem length_padded {width n : Nat} (positive : 0 < width) (h : n < 10 ^ width) :
    (padded width n).length = width := by
  have enough := Integer.length_digits_le positive h
  rw [padded, List.length_append, List.length_replicate]
  omega

/-- A year in front of a hyphen, and what follows. -/
def yearBefore? : List Char → Option (Int × List Char)
  | '-' :: cs => (Integer.naturalBefore? '-' cs).map fun (n, rest) => (-(n : Int), rest)
  | '+' :: cs => (Integer.naturalBefore? '-' cs).map fun (n, rest) => (n, rest)
  | cs => (Integer.naturalBefore? '-' cs).map fun (n, rest) => (n, rest)

theorem yearBefore?_year (y : Int) (rest : List Char) :
    yearBefore? (year y ++ '-' :: rest) = some (y, rest) := by
  have number := naturalBefore?_padded '-' rfl 4
  unfold year
  split_ifs with plain below
  · obtain ⟨c, cs, cons, plus, minus⟩ := (spells_padded 4 y.toNat).exists_cons
    have unsigned : yearBefore? (padded 4 y.toNat ++ '-' :: rest) =
        (Integer.naturalBefore? '-' (padded 4 y.toNat ++ '-' :: rest)).map
          fun (n, rest) => ((n : Int), rest) := by
      rw [cons, List.cons_append, yearBefore?]
      · exact fun _ h => minus (List.cons.inj h).1
      · exact fun _ h => plus (List.cons.inj h).1
    have back : (y.toNat : Int) = y := Int.toNat_of_nonneg plain.1
    simp only [unsigned, number, Option.map_some, back]
  · have back : -(y.natAbs : Int) = y := by omega
    simp only [List.cons_append, yearBefore?, number, Option.map_some, back]
  · have back : (y.natAbs : Int) = y := by omega
    simp only [List.cons_append, yearBefore?, number, Option.map_some, back]

/-- Seconds, and nanoseconds behind a point. -/
def seconds? (cs : List Char) : Option (Nat × Nat) :=
  match cut? '.' cs with
  | none => (Integer.natural? cs).map fun s => (s, 0)
  | some (cs, places) => do
    let s ← Integer.natural? cs
    let n ← Integer.natural? places
    return (s, n * 10 ^ (9 - places.length))

theorem seconds?_fraction (s : Nat) {nanos : Nat} (h : nanos < 1000000000) :
    seconds? (padded 2 s ++ fraction nanos) = some (s, nanos) := by
  have whole := spells_padded 2 s
  have point {width n : Nat} (positive : 0 < width) (hn : n < 10 ^ width)
      (scaled : n * 10 ^ (9 - width) = nanos) :
      seconds? (padded 2 s ++ '.' :: padded width n) = some (s, nanos) := by
    simp only [seconds?, cut?_append (whole.not_mem rfl : '.' ∉ _), whole.natural?_eq,
      (spells_padded width n).natural?_eq, length_padded positive hn]
    exact congrArg (fun n => some (s, n)) scaled
  unfold fraction
  split_ifs with none thousands tens
  · rw [List.append_nil, seconds?, cut?_of_not_mem (whole.not_mem rfl), whole.natural?_eq, none]
    rfl
  · exact point (by decide) (by omega) (by omega)
  · exact point (by decide) (by omega) (by omega)
  · exact point (by decide) h (Nat.mul_one nanos)

theorem not_mem_second (s nanos : Nat) : 'Z' ∉ padded 2 s ++ fraction nanos := by
  have number (width n : Nat) : 'Z' ∉ padded width n := (spells_padded width n).not_mem rfl
  unfold fraction
  split_ifs <;> simp [number]

end Calendar

open Calendar

namespace Timestamp

/-- The moment that a text tells. -/
def ofText? (text : String) : Option Timestamp := do
  let (year, cs) ← yearBefore? text.toList
  let (month, cs) ← Integer.naturalBefore? '-' cs
  let (day, cs) ← Integer.naturalBefore? 'T' cs
  let (hours, cs) ← Integer.naturalBefore? ':' cs
  let (minutes, cs) ← Integer.naturalBefore? ':' cs
  let (cs, _) ← cut? 'Z' cs
  let (seconds, nanos) ← seconds? cs
  let time := hours * 3600 + minutes * 60 + seconds
  return ⟨(dayOf year month day * 86400 + time) * 1000000000 + nanos⟩

/-- A moment as the number of its day, the seconds of that day, and nanoseconds. -/
theorem exists_parts (t : Timestamp) : ∃ (day : Int) (time nanos : Nat), nanos < 1000000000 ∧
    t.nanos = (day * 86400 + time) * 1000000000 + nanos ∧
    t.text = String.ofList (year (civil day).1 ++ '-' :: (padded 2 (civil day).2.1 ++ '-' ::
      (padded 2 (civil day).2.2 ++ 'T' :: (padded 2 (time / 3600) ++ ':' ::
        (padded 2 (time / 60 % 60) ++ ':' ::
          ((padded 2 (time % 60) ++ fraction nanos) ++ 'Z' :: [])))))) := by
  refine ⟨t.seconds.fdiv 86400, (t.seconds - t.seconds.fdiv 86400 * 86400).toNat,
    (t.nanos - t.seconds * 1000000000).toNat, ?_, ?_, ?_⟩
  · unfold seconds
    rw [Int.fdiv_eq_ediv_of_nonneg _ (by decide)]
    omega
  · unfold seconds
    simp only [Int.fdiv_eq_ediv_of_nonneg _ (show (0 : Int) ≤ 86400 by decide),
      Int.fdiv_eq_ediv_of_nonneg _ (show (0 : Int) ≤ 1000000000 by decide)]
    omega
  · simp only [text, List.append_assoc, List.cons_append]

theorem ofText?_text (t : Timestamp) : ofText? t.text = some t := by
  obtain ⟨day, time, nanos, small, sum, text⟩ := t.exists_parts
  have clock : time / 3600 * 3600 + time / 60 % 60 * 60 + time % 60 = time := by omega
  rw [ofText?, text, String.toList_ofList, yearBefore?_year]
  simp only [Option.bind_eq_bind, Option.bind_some, naturalBefore?_padded '-' rfl,
    naturalBefore?_padded 'T' rfl, naturalBefore?_padded ':' rfl,
    cut?_append (not_mem_second _ _), seconds?_fraction _ small, dayOf_civil, clock]
  rw [← sum]
  rfl

example : (Timestamp.mk 951827696789000000).text = "2000-02-29T12:34:56.789Z" := by
  decide +kernel

end Timestamp
end Giro
