import Giro.Proofs.Contention
import Giro.Proofs.Endings

/-!
# How a payment ends

A payment is looked at in three places: as a request, against the committed accounts, and once more
by the transfer that it orders. `Payment.checks` puts what a user can be told in one order. Each
check is about the request and the accounts and about no other check, the first that fails decides,
and if none fails then all that is left to go wrong is a balance that would leave its range.
-/

namespace Giro

open Traffic

/-- A refusal in a certain case. -/
def Refusal.when (case : Prop) [Decidable case] (why : Refusal) : Option Refusal :=
  if case then some why else none

theorem Refusal.when_of {case : Prop} [Decidable case] (h : case) (why : Refusal) :
    Refusal.when case why = some why := if_pos h

theorem Refusal.when_of_not {case : Prop} [Decidable case] (h : ¬ case) (why : Refusal) :
    Refusal.when case why = none := if_neg h

namespace Payment

variable (p : Payment)

/-! ## Checks -/

/-- Why an account is not there. -/
def missing? (t : Tables) (id : Int) : Option Refusal :=
  Refusal.when (t.account? id = none) (.notFound (.account id))

/-- Why an account that is there does not have the currency that is asked for. -/
def mismatch? (t : Tables) (id : Int) : Option Refusal := do
  let account ← t.account? id
  let currency ← Currency.ofCode? p.currency
  Refusal.when (account.currency ≠ currency)
    (.invalid (.currencyMismatch id account.currency currency))

/-- Why money may not be taken from an account that is there. -/
def foreign? (caller : String) (t : Tables) : Option Refusal := do
  let account ← t.account? p.source
  Refusal.when (account.owner ≠ caller) (.unauthorized .notSourceOwner)

/-- All checks of a payment, in their order. -/
def checks (caller : String) (t : Tables) : List (Option Refusal) := [
  Refusal.when (p.source ≤ 0 ∨ p.target ≤ 0) (.invalid .idsNotPositive),
  Refusal.when (p.amount ≤ 0) (.invalid .amountNotPositive),
  Refusal.when (p.source = p.target) (.invalid .sameAccount),
  Refusal.when (Currency.ofCode? p.currency = none) (.invalid (.unsupportedCurrency p.currency)),
  missing? t p.source,
  p.mismatch? t p.source,
  p.foreign? caller t,
  missing? t p.target,
  p.mismatch? t p.target]

/-- What the first check says that fails. -/
def refusal? (caller : String) (t : Tables) : Option Refusal := (p.checks caller t).findSome? id

variable {p} {caller : String} {t : Tables} {s s' : Store} {now : Timestamp} {currency : Currency}

theorem refusal?_of_check_error {why : Invalid} (h : p.check = .error why) :
    p.refusal? caller t = some (.invalid why) := by
  unfold check at h
  unfold refusal? checks
  split_ifs at h with ids amount same
  · cases h
    rw [Refusal.when_of ids]
    rfl
  · cases h
    rw [Refusal.when_of_not ids, Refusal.when_of amount]
    rfl
  · cases h
    rw [Refusal.when_of_not ids, Refusal.when_of_not amount, Refusal.when_of same]
    rfl
  · split at h
    · rename_i unsupported
      cases h
      rw [Refusal.when_of_not ids, Refusal.when_of_not amount, Refusal.when_of_not same,
        Refusal.when_of unsupported]
      rfl
    · cases h

theorem findSome?_id_cons {α : Type} (first : Option α) (others : List (Option α)) :
    (first :: others).findSome? id = first.or (others.findSome? id) := by
  cases first <;> rfl

/-- Of a request that is well formed, the accounts are left to be checked. -/
theorem refusal?_of_check (h : p.check = .ok currency) : p.refusal? caller t =
    ((missing? t p.source).or (p.mismatch? t p.source)).or
      ((p.foreign? caller t).or ((missing? t p.target).or (p.mismatch? t p.target))) := by
  obtain ⟨ids, amount, different, code⟩ := check_eq_ok_iff.mp h
  have supported : Currency.ofCode? p.currency ≠ none := by simp [code]
  unfold refusal? checks
  rw [Refusal.when_of_not ids, Refusal.when_of_not amount, Refusal.when_of_not different,
    Refusal.when_of_not supported]
  simp only [findSome?_id_cons, List.findSome?_nil, Option.none_or, Option.or_none, Option.or_assoc]

/-! ## Running the checks -/

/-- An account is refused by one of its two checks, or it is loaded. -/
theorem run_accountIn {α : Type} (code : Currency.ofCode? p.currency = some currency) (id : Int)
    (f : Account → Attempt Refusal α) :
    (∃ why, (missing? s.tables id).or (p.mismatch? s.tables id) = some why ∧
      Backend.memory.run now (accountIn currency id >>= f).run [] s =
        (s, .finished (.error why))) ∨
    ∃ x, s.tables.account? id = some x ∧ missing? s.tables id = none ∧
      p.mismatch? s.tables id = none ∧
      Backend.memory.run now (accountIn currency id >>= f).run [] s =
        Backend.memory.run now (f x).run [] s := by
  have read : s.perform now (.getAccount id) = (s, .answered (s.getAccount id)) := rfl
  unfold accountIn
  rw [bind_assoc, Backend.run_read rfl read]
  cases haccount : s.tables.account? id with
  | none =>
    have answer : s.getAccount id = .error (.notFound (.account id)) := by
      rw [Store.getAccount, haccount]
    rw [answer, missing?, Refusal.when_of haccount]
    exact Or.inl ⟨_, rfl, rfl⟩
  | some x =>
    have answer : s.getAccount id = .ok x := by rw [Store.getAccount, haccount]
    have present : missing? s.tables id = none := Refusal.when_of_not (by simp [haccount]) _
    have checked : p.mismatch? s.tables id = Refusal.when (x.currency ≠ currency)
        (.invalid (.currencyMismatch id x.currency currency)) := by
      rw [mismatch?, haccount, code]
      rfl
    rw [answer, present]
    by_cases other : x.currency ≠ currency
    · refine Or.inl ⟨_, checked.trans (Refusal.when_of other _), ?_⟩
      simp only [if_pos other]
      rfl
    · refine Or.inr ⟨x, rfl, rfl, checked.trans (Refusal.when_of_not other _), ?_⟩
      simp only [if_neg other]
      rfl

/-- The checks are made in their order, and the transfer is posted if none fails. -/
theorem run_execute : Backend.memory.run now (p.execute caller).run [] s =
    match p.refusal? caller s.tables with
    | some why => (s, .finished (.error why))
    | none => Backend.memory.run now (Attempt.mapError .store p.order.post).run [] s := by
  unfold execute
  cases check : p.check with
  | error why =>
    rw [refusal?_of_check_error check]
    rfl
  | ok currency =>
    obtain ⟨_, _, _, code⟩ := check_eq_ok_iff.mp check
    rw [refusal?_of_check check]
    change Backend.memory.run now (accountIn currency p.source >>= _).run [] s = _
    rcases run_accountIn code p.source _ with ⟨why, refused, hrun⟩ | ⟨x, hx, present, same, hrun⟩
    · rw [hrun, refused]
      rfl
    · have foreign : p.foreign? caller s.tables =
          Refusal.when (x.owner ≠ caller) (.unauthorized .notSourceOwner) := by
        rw [foreign?, hx]
        rfl
      rw [hrun, present, same, foreign]
      by_cases other : x.owner ≠ caller
      · rw [Refusal.when_of other]
        simp only [if_pos other]
        rfl
      · rw [Refusal.when_of_not other]
        simp only [if_neg other]
        rcases run_accountIn code p.target fun _ => Attempt.mapError .store p.order.post with
          ⟨why, refused, hrun⟩ | ⟨y, _, present, same, hrun⟩
        · rw [hrun, refused]
          rfl
        · rw [hrun, present, same]
          rfl

/-- What a payment is refused for without being posted is not an error of the store. -/
theorem refusal?_ne_store (e : StoreError) : p.refusal? caller t ≠ some (.store e) := by
  have own {case : Prop} [Decidable case] {why : Refusal} (h : why ≠ .store e) :
      Refusal.when case why ≠ some (.store e) := by
    unfold Refusal.when
    split
    · exact fun heq => h (Option.some.inj heq)
    · simp
  have mismatch (id : Int) : p.mismatch? t id ≠ some (.store e) := by
    unfold mismatch?
    cases t.account? id with
    | none => simp
    | some x =>
      cases Currency.ofCode? p.currency with
      | none => simp
      | some currency => exact own (by simp)
  have foreign : p.foreign? caller t ≠ some (.store e) := by
    unfold foreign?
    cases t.account? p.source with
    | none => simp
    | some x => exact own (by simp)
  intro h
  obtain ⟨check, hmem, hcheck⟩ := List.exists_of_findSome?_eq_some h
  simp only [checks, List.mem_cons, List.not_mem_nil, or_false] at hmem
  rcases hmem with rfl | rfl | rfl | rfl | rfl | rfl | rfl | rfl | rfl
  · exact own (by simp) hcheck
  · exact own (by simp) hcheck
  · exact own (by simp) hcheck
  · exact own (by simp) hcheck
  · exact own (by simp) hcheck
  · exact mismatch _ hcheck
  · exact foreign hcheck
  · exact own (by simp) hcheck
  · exact mismatch _ hcheck

/-- What passes the checks is an order that passes its own, between two accounts that are there. -/
theorem exists_accounts (h : p.refusal? caller t = none) :
    p.order.check = .ok () ∧ p.source ≠ p.target ∧ ∃ a b, t.account? p.source = some a ∧
      t.account? p.target = some b := by
  cases check : p.check with
  | error why =>
    rw [refusal?_of_check_error check] at h
    cases h
  | ok currency =>
    obtain ⟨ids, amount, different, _⟩ := check_eq_ok_iff.mp check
    have wellFormed : p.order.check = .ok () := by
      rw [TransferOrder.check_eq_ok_iff_pos]
      rintro (source | target | small)
      · exact ids (Or.inl source)
      · exact ids (Or.inr target)
      · exact amount small
    rw [refusal?_of_check check] at h
    obtain ⟨hsource, hrest⟩ := Option.or_eq_none_iff.mp h
    obtain ⟨_, htarget⟩ := Option.or_eq_none_iff.mp hrest
    have present {id : Int} (h : missing? t id = none) : ∃ x, t.account? id = some x := by
      rw [← Option.ne_none_iff_exists']
      intro missing
      rw [missing?, Refusal.when_of missing] at h
      cases h
    obtain ⟨a, ha⟩ := present (Option.or_eq_none_iff.mp hsource).1
    obtain ⟨b, hb⟩ := present (Option.or_eq_none_iff.mp htarget).1
    exact ⟨wellFormed, different, a, b, ha, hb⟩

/-! ## The end of a payment -/

/-- Whether the balances of two accounts stay in their range. -/
def Fits (p : Payment) (source target : Account) : Prop :=
  Amount.InRange (source.balance.toInt - p.amount.toInt) ∧
    Amount.InRange (target.balance.toInt + p.amount.toInt)

instance (source target : Account) : Decidable (p.Fits source target) :=
  inferInstanceAs (Decidable (_ ∧ _))

theorem order_fits_iff {a b : Account} (different : p.source ≠ p.target)
    (hpos : 0 < p.amount.toInt) : p.order.Fits a b ↔ p.Fits a b := by
  have ha := a.balance.inRange_toInt
  have hb := b.balance.inRange_toInt
  unfold TransferOrder.Fits Fits order
  rw [if_neg different]
  unfold Amount.InRange at *
  dsimp only
  omega

/-- How a payment ends: the first check that fails refuses it, and if none fails, the balances of
its two accounts decide. All that the store itself ever finds wrong is a balance. -/
structure Ends (p : Payment) (caller : String) (now : Timestamp) (s s' : Store)
    (result : Except Refusal Posted) : Prop where
  refused : ∀ why, p.refusal? caller s.tables = some why → s' = s ∧ result = .error why
  covered : p.refusal? caller s.tables = none → ∃ a b, s.tables.account? p.source = some a ∧
    s.tables.account? p.target = some b ∧ ((∃ posted, result = .ok posted) ↔ p.Fits a b) ∧
    (¬ p.Fits a b → ∃ breach : Breach, breach.constraint = .other ∧
      result = .error (.store (.constraint breach)))
  done : ∀ posted, result = .ok posted → p.order.Done now s s' posted
  failed : ∀ why, result = .error why → s'.tables = s.tables
  engine : ∀ e, result = .error (.store e) →
    ∃ breach : Breach, breach.constraint = .other ∧ e = .constraint breach

theorem ends_of_refused {why : Refusal} (h : p.refusal? caller s.tables = some why) :
    p.Ends caller now s s (.error why) := by
  constructor
  · intro why' h'
    cases h.symm.trans h'
    exact ⟨rfl, rfl⟩
  · intro covered
    rw [h] at covered
    cases covered
  · intro posted hposted
    cases hposted
  · exact fun _ _ => rfl
  · rintro e ⟨rfl⟩
    exact absurd h (refusal?_ne_store e)

/-- A payment that passes its checks ends as its order does. -/
theorem ends_of_order {result : Except StoreError Posted} (h : p.refusal? caller s.tables = none)
    (ends : p.order.Ends now s s' result) : p.Ends caller now s s' (result.mapError .store) := by
  obtain ⟨wellFormed, different, a, b, ha, hb⟩ := exists_accounts h
  have order := TransferOrder.check_eq_ok_iff_pos.mp wellFormed
  have fits : p.order.Fits a b ↔ p.Fits a b :=
    order_fits_iff different (TransferOrder.amount_pos wellFormed)
  obtain ⟨posts, overflows⟩ := ends.covered order a b ha hb
  rw [fits] at posts overflows
  cases result with
  | ok posted =>
    have inRange : p.Fits a b := posts.mp ⟨posted, rfl⟩
    constructor
    · intro why hwhy
      rw [h] at hwhy
      cases hwhy
    · intro _
      refine ⟨a, b, ha, hb, iff_of_true ⟨posted, rfl⟩ inRange, ?_⟩
      exact fun outOfRange => absurd inRange outOfRange
    · rintro _ ⟨rfl⟩
      exact ends.done posted rfl
    · intro why hwhy
      cases hwhy
    · intro e he
      cases he
  | error e =>
    have outOfRange : ¬ p.Fits a b := by
      intro inRange
      obtain ⟨posted, hposted⟩ := posts.mpr inRange
      cases hposted
    obtain ⟨tables, breach, hother, hbreach⟩ := overflows outOfRange
    cases hbreach
    constructor
    · intro why hwhy
      rw [h] at hwhy
      cases hwhy
    · intro _
      refine ⟨a, b, ha, hb, iff_of_false ?_ outOfRange, fun _ => ⟨breach, hother, rfl⟩⟩
      rintro ⟨posted, hposted⟩
      cases hposted
    · intro posted hposted
      cases hposted
    · exact fun _ _ => tables
    · rintro e ⟨rfl⟩
      exact ⟨breach, hother, rfl⟩

end Payment

theorem Traffic.Orderly.holder?_eq_none {s : Store} {ws : List Waiting} {x : Account} {id : Int}
    (ord : Orderly s ws) (hx : s.tables.account? id = some x) (unlocked : s.Unlocked ws id) :
    s.holder? id = none := by
  obtain ⟨hmem, hid⟩ := Tables.mem_of_account? hx
  have unasked := ord.ne_of_unlocked unlocked ((ord.mem_lockable_iff id).mpr ⟨x, hmem, hid⟩)
  simpa [Store.holder?] using unasked

/-- Where the row of neither account of a payment is with an open transaction or with a deletion,
the payment ends at once, as its checks and the two balances decide. -/
theorem Traffic.Run.payment_ends {history : List Event} {s : Store} {ws : List Waiting}
    (run : Run history ⟨s, ws⟩) (p : Payment) (caller : String) (source : s.Unlocked ws p.source)
    (target : s.Unlocked ws p.target) (now : Timestamp) :
    ∃ s' result, Backend.memory.run now (p.execute caller).run [] s = (s', .finished result) ∧
      p.Ends caller now s s' result := by
  rw [Payment.run_execute]
  cases h : p.refusal? caller s.tables with
  | some why => exact ⟨s, .error why, rfl, Payment.ends_of_refused h⟩
  | none =>
    obtain ⟨check, _, a, b, ha, hb⟩ := Payment.exists_accounts h
    obtain ⟨s', result, hrun, ends⟩ := TransferOrder.exists_ends_of_found run check
      (run.orderly.holder?_eq_none ha source) (run.orderly.holder?_eq_none hb target) ha hb
    refine ⟨s', result.mapError .store, ?_, Payment.ends_of_order h ends⟩
    have mapped := @Backend.run_map _ _ _ Backend.memory now (Except.mapError Refusal.store)
      p.order.post.run [] s
    rw [hrun] at mapped
    exact mapped

/-- All that an amount can hold, out of one empty account and into another. -/
def sampleOrder : Payment := ⟨1, 2, 9223372036854775807, "USD"⟩

/-- Its owner can pay from it, and nobody else. -/
theorem Traffic.Run.payment_ends_of_settled : sampleStore.Settled ∧
    (∃ s' posted, Backend.memory.run .epoch (sampleOrder.execute "ada").run [] sampleStore =
      (s', .finished (.ok posted)) ∧ sampleOrder.order.Done .epoch sampleStore s' posted) ∧
    Backend.memory.run .epoch (sampleOrder.execute "bob").run [] sampleStore =
      (sampleStore, .finished (.error (.unauthorized .notSourceOwner))) := by
  have settled := settled_sampleStore
  obtain ⟨⟨history, run⟩, _⟩ := id settled
  have free := settled.unlocked
  refine ⟨settled, ?_, ?_⟩
  · obtain ⟨s', result, hrun, ends⟩ := run.payment_ends sampleOrder "ada" (free _) (free _) .epoch
    obtain ⟨a, b, ha, hb, posts, _⟩ := ends.covered rfl
    cases ha
    cases hb
    obtain ⟨posted, rfl⟩ := posts.mpr (by decide)
    exact ⟨s', posted, hrun, ends.done posted rfl⟩
  · obtain ⟨s', result, hrun, ends⟩ := run.payment_ends sampleOrder "bob" (free _) (free _) .epoch
    obtain ⟨rfl, rfl⟩ := ends.refused _ rfl
    exact hrun

end Giro
