import Giro.Proofs.Turns

/-!
# Who has to wait

Only two calls can have to wait, and only for the row of the one account that they name. They wait
behind an open transaction that has the row, or behind a deletion that has come to the row and has
not gone on yet: rows are handed on in the order in which they were asked for, so a deletion that
waits in between keeps the later ones waiting.
-/

namespace Giro

namespace Store

variable (s : Store) (ws : List Waiting)

/-- A call would have to wait. -/
def Waits (now : Timestamp) (c : Call) : Prop := ∃ r, (s.perform now c).2 = .waiting r

/-- The row of an account is with an open transaction. -/
def LockedBy (t : Nat) (id : Int) : Prop :=
  id ∈ s.lockable ∧ (s.transaction? t).isSome ∧ s.Holds ⟨t, id⟩

/-- The row of an account is with a deletion that has waited for it. -/
def Closing (id : Int) : Prop :=
  id ∈ s.lockable ∧ ∃ w ∈ ws, w.purpose = .delete ∧ w.request.account = id ∧ s.Holds w.request

/-- The row of an account is with nobody. -/
def Unlocked (id : Int) : Prop := (∀ u, ¬ s.LockedBy u id) ∧ ¬ s.Closing ws id

variable {s ws} {t : Nat} {id : Int} {amount : Amount} {now : Timestamp}

/-- Where no transaction is open and no account is being deleted, every row is with nobody. -/
theorem Settled.unlocked (settled : s.Settled) (id : Int) : s.Unlocked [] id := by
  constructor
  · rintro u ⟨_, isOpen, _⟩
    obtain ⟨tx, htx, _⟩ := isSome_transaction?_iff.mp isOpen
    rw [settled.2] at htx
    exact List.not_mem_nil htx
  · rintro ⟨_, w, hw, _⟩
    exact List.not_mem_nil hw

/-- A call that names no row to be changed never waits. -/
theorem not_waits {c : Call} (h : c.purpose? = none) : ¬ s.Waits now c := by
  rintro ⟨r, hr⟩
  obtain ⟨⟨v, _, rfl⟩, _⟩ := Traffic.exists_waiting_of_perform (Prod.ext rfl hr)
  cases (Traffic.purpose?_call v).symm.trans h

/-- Whoever has the row keeps a later request waiting. -/
theorem not_holds_enqueue {q r : LockRequest} (holds : s.Holds q) (row : q.account = r.account)
    (other : q ≠ r) : ¬ (s.enqueue r).Holds r :=
  fun mine => other (holds.enqueue.unique mine row)

end Store

namespace Traffic.Orderly

variable {s : Store} {ws : List Waiting} (o : Orderly s ws) {t : Nat} {id : Int} {amount : Amount}
    {now : Timestamp}
include o

/-- The row of an account is with an open transaction or with a deletion. -/
theorem lockedBy_or_closing {q : LockRequest} (hl : id ∈ s.lockable) (holds : s.Holds q)
    (row : q.account = id) : s.LockedBy q.ticket id ∨ s.Closing ws id := by
  subst row
  rcases o.requests_owned q holds.mem with ⟨tx, htx, ht, _⟩ | ⟨w, hw, rfl⟩
  · exact Or.inl ⟨hl, Store.isSome_transaction?_iff.mpr ⟨tx, htx, ht⟩, holds⟩
  · obtain ⟨r, purpose⟩ := w
    cases purpose with
    | add amount =>
      obtain ⟨tx, htx, ht, _⟩ := o.exists_unlocked hw
      exact Or.inl ⟨hl, Store.isSome_transaction?_iff.mpr ⟨tx, htx, ht⟩, holds⟩
    | delete => exact Or.inr ⟨hl, _, hw, rfl, rfl, holds⟩

/-- Nobody asks for a row that is with nobody. -/
theorem ne_of_unlocked (hid : s.Unlocked ws id) (hl : id ∈ s.lockable) :
    ∀ r ∈ s.requests, r.account ≠ id := by
  intro r hr row
  obtain ⟨q, hq, holds⟩ := Store.exists_holder hr
  rcases o.lockedBy_or_closing hl holds (hq.trans row) with locked | closing
  · exact hid.1 _ locked
  · exact hid.2 closing

/-- An addition waits exactly while its row is with somebody else. -/
theorem waits_addBalance_iff (isOpen : (s.transaction? t).isSome) (free : Free t ws) :
    s.Waits now (.addBalance t id amount) ↔
      (∃ u, u ≠ t ∧ s.LockedBy u id) ∨ s.Closing ws id := by
  obtain ⟨tx, hfind⟩ := Option.isSome_iff_exists.mp isOpen
  obtain ⟨htx, ht⟩ := Store.mem_of_transaction? hfind
  -- A new request joins the queue at its end, so whoever has the row already is in front of it.
  have waits_behind {q : LockRequest} (hl : id ∈ s.lockable) (holds : s.Holds q)
      (row : q.account = id) (other : q.ticket ≠ t) :
      s.Waits now (.addBalance t id amount) := by
    have unlocked : tx.row? id = none := by
      rw [Transaction.row?_eq_none_iff]
      intro copy hcopy hid
      have mine := (o.rows_locked tx htx copy hcopy).1
      have : q = ⟨tx.ticket, copy.id⟩ := holds.unique mine (row.trans hid.symm)
      exact other (by rw [this, ht])
    have behind : ¬ (s.enqueue ⟨t, id⟩).Holds ⟨t, id⟩ :=
      Store.not_holds_enqueue holds row fun heq => other (congrArg LockRequest.ticket heq)
    refine ⟨⟨t, id⟩, ?_⟩
    rw [Store.perform, Store.addBalance_of_row?_eq_none amount hfind unlocked hl, if_neg behind]
  constructor
  · rintro ⟨r, hr⟩
    have h : s.addBalance t id amount = ((s.addBalance t id amount).1, .waiting r) :=
      Prod.ext rfl hr
    generalize (s.addBalance t id amount).1 = s' at h
    cases Store.addBalance_outcome h with
    | queued hfind' unlocked hl behind =>
      cases hfind.symm.trans hfind'
      obtain ⟨first, hfirst, haccount⟩ := Store.exists_request_of_not_holds rfl behind
      obtain ⟨q, hq, holds⟩ := Store.exists_holder hfirst
      have row : q.account = id := hq.trans haccount
      rcases o.lockedBy_or_closing hl holds row with locked | closing
      · refine Or.inl ⟨q.ticket, ?_, locked⟩
        intro own
        rcases o.requests_owned q holds.mem with ⟨tx', htx', ht', copy, hcopy, hid⟩ | ⟨w, hw, rfl⟩
        · cases o.eq_of_ticket htx' htx (ht'.trans (own.trans ht.symm))
          exact Transaction.row?_eq_none_iff.mp unlocked copy hcopy (hid.trans row)
        · exact free w hw own
      · exact Or.inr closing
  · rintro (⟨u, other, hl, _, holds⟩ | ⟨hl, w, hw, hdelete, row, holds⟩)
    · exact waits_behind hl holds rfl other
    · refine waits_behind hl holds row fun heq => ?_
      exact o.ticket_ne_of_delete hw hdelete htx (ht.trans heq.symm)

/-- A deletion waits exactly while the row is with anybody. -/
theorem waits_deleteAccount_iff :
    s.Waits now (.deleteAccount id) ↔ (∃ u, s.LockedBy u id) ∨ s.Closing ws id := by
  -- A deletion draws a ticket of its own, so its request is never the one that has the row.
  have waits_behind {q : LockRequest} (hl : id ∈ s.lockable) (holds : s.Holds q)
      (row : q.account = id) : s.Waits now (.deleteAccount id) := by
    have other : q ≠ ⟨s.draw.1, id⟩ := by
      rintro rfl
      have := (o.requests_issued _ holds.mem).1
      simp only [Store.draw] at this
      omega
    have behind : ¬ (s.draw.2.enqueue ⟨s.draw.1, id⟩).Holds ⟨s.draw.1, id⟩ :=
      Store.not_holds_enqueue (s := s.draw.2) holds row other
    refine ⟨⟨s.draw.1, id⟩, ?_⟩
    rw [Store.perform, Store.deleteAccount_of_mem_lockable hl, if_neg behind]
  constructor
  · rintro ⟨r, hr⟩
    have h : s.deleteAccount id = ((s.deleteAccount id).1, .waiting r) := Prod.ext rfl hr
    generalize (s.deleteAccount id).1 = s' at h
    cases Store.deleteAccount_outcome h with
    | queued hl behind =>
      obtain ⟨first, hfirst, haccount⟩ :=
        Store.exists_request_of_not_holds (s := s.draw.2) rfl behind
      obtain ⟨q, hq, holds⟩ := Store.exists_holder (s := s) hfirst
      rcases o.lockedBy_or_closing hl holds (hq.trans haccount) with locked | closing
      · exact Or.inl ⟨q.ticket, locked⟩
      · exact Or.inr closing
  · rintro (⟨u, hl, _, holds⟩ | ⟨hl, w, hw, _, row, holds⟩)
    · exact waits_behind hl holds rfl
    · exact waits_behind hl holds row

end Traffic.Orderly

/-- A deletion that waits for one transaction keeps the next one waiting when the first has
ended. -/
theorem Traffic.Run.exists_blocked_by_deletion : ∃ history s ws, Run history ⟨s, ws⟩ ∧
    (s.transaction? 3).isSome ∧ Free 3 ws ∧ s.Waits .epoch (.addBalance 3 1 3) ∧
    s.Waits .epoch (.deleteAccount 1) ∧ ¬ ∃ u, s.LockedBy u 1 := by
  have run := Run.start.call .epoch (.createUser ⟨"ada", "", "", "a"⟩) (by decide) rfl
  have run := run.call .epoch (.createAccount ⟨"ada", .usd, 0⟩) (by decide) rfl
  have run := run.call .epoch .begin (by decide) rfl
  have run := run.call .epoch (.addBalance 1 1 5) (by decide) rfl
  have run := run.step (@Step.wait _ _ [] [] .epoch ⟨⟨2, 1⟩, .delete⟩ (by decide) rfl)
  have run := run.call .epoch (.commit 1) (by decide) rfl
  have run := run.call .epoch .begin (by decide) rfl
  refine ⟨_, _, _, run, by decide, ?_, ⟨⟨3, 1⟩, rfl⟩, ⟨⟨4, 1⟩, rfl⟩, ?_⟩
  · intro w hw
    rw [List.mem_singleton.mp hw]
    decide
  · rintro ⟨u, _, isOpen, holds⟩
    obtain rfl : u = 2 := (Option.some.inj holds).symm
    revert isOpen
    decide

end Giro
