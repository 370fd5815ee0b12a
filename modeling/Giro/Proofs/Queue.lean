import Giro.Proofs.Operations

/-!
# The queue for rows

Who has a row, and what a request that joins or leaves the queue changes about that. Two calls may
have to queue: `AddOutcome` and `DeleteOutcome` say all that can come of them.
-/

namespace Giro

namespace Store

variable {s s' : Store} {q r : LockRequest}

theorem holds_iff : s.Holds r ↔ s.requests.find? (fun q => q.account == r.account) = some r := by
  unfold Holds holder?
  cases h : s.requests.find? fun q => q.account == r.account with
  | none => simp
  | some q =>
    have hq : q.account = r.account := by simpa using List.find?_some h
    obtain ⟨t, account⟩ := q
    obtain ⟨t', account'⟩ := r
    simp_all

theorem Holds.mem (h : s.Holds r) : r ∈ s.requests := List.mem_of_find?_eq_some (holds_iff.mp h)

theorem Holds.unique (hq : s.Holds q) (hr : s.Holds r) (h : q.account = r.account) : q = r := by
  have hq' := holds_iff.mp hq
  rw [h, holds_iff.mp hr] at hq'
  exact (Option.some.inj hq').symm

theorem Holds.enqueue (h : s.Holds r) : (s.enqueue q).Holds r := by
  rw [holds_iff] at h ⊢
  rw [enqueue_requests, List.find?_append, h, Option.some_or]

theorem find?_filter_of_find? {α : Type} {p keep : α → Bool} {l : List α} {a : α}
    (h : l.find? p = some a) (ha : keep a) : (l.filter keep).find? p = some a := by
  induction l with
  | nil => cases h
  | cons b l ih =>
    by_cases hb : p b
    · have : b = a := by simpa [hb] using h
      subst this
      simp [ha, hb]
    · have hl : l.find? p = some a := by simpa [hb] using h
      by_cases hk : keep b <;> simp [hk, hb, ih hl]

theorem find?_append_cons {α : Type} {p : α → Bool} {before after : List α} {a : α}
    (none_before : before.find? p = none) (ha : p a) : (before ++ a :: after).find? p = some a := by
  rw [List.find?_append, none_before, Option.none_or, List.find?_cons_of_pos ha]

theorem Holds.discard {t : Nat} (h : s.Holds r) (ht : r.ticket ≠ t) : (s.discard t).Holds r := by
  rw [holds_iff] at h ⊢
  exact find?_filter_of_find? h (by simpa using ht)

theorem Holds.withdraw (h : s.Holds r) (nodup : s.requests.Nodup) (hne : r ≠ q) :
    (s.withdraw q).Holds r := by
  rw [holds_iff] at h ⊢
  rw [withdraw_requests, nodup.erase_eq_filter]
  exact find?_filter_of_find? h (by simpa using hne)

theorem exists_holder (hr : r ∈ s.requests) : ∃ q, q.account = r.account ∧ s.Holds q := by
  cases h : s.requests.find? fun q => q.account == r.account with
  | none =>
    have := List.find?_eq_none.mp h r hr
    simp at this
  | some q =>
    have hq : q.account = r.account := by simpa using List.find?_some h
    exact ⟨q, hq, holds_iff.mpr (by rw [hq]; exact h)⟩

theorem exists_request_of_not_holds (h : s'.requests = s.requests ++ [r]) (behind : ¬ s'.Holds r) :
    ∃ q ∈ s.requests, q.account = r.account := by
  by_contra none_before
  refine behind (holds_iff.mpr ?_)
  have : s.requests.find? (fun q => q.account == r.account) = none :=
    List.find?_eq_none.mpr fun q hq hqr => none_before ⟨q, hq, by simpa using hqr⟩
  rw [h]
  exact find?_append_cons this (by simp)

/-! ## The calls that may wait -/

variable {t : Nat} {account id : Int} {amount : Amount}

/-- An addition to a row that is not locked yet is a request for the row and, if the row is free,
its grant. -/
theorem addBalance_of_row?_eq_none (amount : Amount) {tx : Transaction}
    (htx : s.transaction? t = some tx) (hrow : tx.row? account = none) (hl : account ∈ s.lockable) :
    s.addBalance t account amount =
      if (s.enqueue ⟨t, account⟩).Holds ⟨t, account⟩ then
        (((s.enqueue ⟨t, account⟩).addGranted ⟨t, account⟩ amount).1,
          .answered ((s.enqueue ⟨t, account⟩).addGranted ⟨t, account⟩ amount).2)
      else (s.enqueue ⟨t, account⟩, .waiting ⟨t, account⟩) := by
  simp only [addBalance, htx, hrow, request?_of_mem (r := ⟨t, account⟩) hl]

theorem deleteAccount_of_mem_lockable (hl : id ∈ s.lockable) :
    s.deleteAccount id =
      if (s.draw.2.enqueue ⟨s.draw.1, id⟩).Holds ⟨s.draw.1, id⟩ then
        (((s.draw.2.enqueue ⟨s.draw.1, id⟩).deleteGranted ⟨s.draw.1, id⟩).1,
          .answered ((s.draw.2.enqueue ⟨s.draw.1, id⟩).deleteGranted ⟨s.draw.1, id⟩).2)
      else (s.draw.2.enqueue ⟨s.draw.1, id⟩, .waiting ⟨s.draw.1, id⟩) := by
  simp only [deleteAccount, request?_of_mem (s := s.draw.2) (r := ⟨s.draw.1, id⟩) hl]

/-- What can come of an addition to a balance. -/
inductive AddOutcome (s : Store) (t : Nat) (account : Int) (amount : Amount) :
    Store → Status Account → Prop where
  | refused (e : StoreError) : AddOutcome s t account amount s (.answered (.error e))
  | staged {s' : Store} {tx : Transaction} {row a : Account} (htx : s.transaction? t = some tx)
      (hrow : tx.row? account = some row) (h : s.addStaged t row amount = .ok (a, s')) :
      AddOutcome s t account amount s' (.answered (.ok a))
  | granted {s' : Store} {tx : Transaction} {answer : Except StoreError Account}
      (htx : s.transaction? t = some tx) (hrow : tx.row? account = none) (hl : account ∈ s.lockable)
      (holds : (s.enqueue ⟨t, account⟩).Holds ⟨t, account⟩)
      (h : (s.enqueue ⟨t, account⟩).addGranted ⟨t, account⟩ amount = (s', answer)) :
      AddOutcome s t account amount s' (.answered answer)
  | queued {tx : Transaction} (htx : s.transaction? t = some tx) (hrow : tx.row? account = none)
      (hl : account ∈ s.lockable) (behind : ¬ (s.enqueue ⟨t, account⟩).Holds ⟨t, account⟩) :
      AddOutcome s t account amount (s.enqueue ⟨t, account⟩) (.waiting ⟨t, account⟩)

theorem addBalance_outcome {status : Status Account}
    (h : s.addBalance t account amount = (s', status)) :
    AddOutcome s t account amount s' status := by
  cases htx : s.transaction? t with
  | none =>
    simp only [addBalance, htx] at h
    cases h
    exact .refused _
  | some tx =>
    cases hrow : tx.row? account with
    | some row =>
      cases hs : s.addStaged t row amount with
      | error e =>
        simp only [addBalance, htx, hrow, hs] at h
        cases h
        exact .refused e
      | ok staged =>
        simp only [addBalance, htx, hrow, hs] at h
        cases h
        exact .staged htx hrow hs
    | none =>
      by_cases hl : account ∈ s.lockable
      · rw [addBalance_of_row?_eq_none amount htx hrow hl] at h
        split at h
        · rename_i holds
          cases h
          exact .granted htx hrow hl holds rfl
        · rename_i behind
          cases h
          exact .queued htx hrow hl behind
      · simp only [addBalance, htx, hrow, request?_of_not_mem (r := ⟨t, account⟩) hl] at h
        cases h
        exact .refused _

/-- What can come of a deletion, which draws a ticket of its own. -/
inductive DeleteOutcome (s : Store) (id : Int) : Store → Status Unit → Prop where
  | refused (e : StoreError) : DeleteOutcome s id s (.answered (.error e))
  | granted {s' : Store} {answer : Except StoreError Unit} (hl : id ∈ s.lockable)
      (holds : (s.draw.2.enqueue ⟨s.draw.1, id⟩).Holds ⟨s.draw.1, id⟩)
      (h : (s.draw.2.enqueue ⟨s.draw.1, id⟩).deleteGranted ⟨s.draw.1, id⟩ = (s', answer)) :
      DeleteOutcome s id s' (.answered answer)
  | queued (hl : id ∈ s.lockable)
      (behind : ¬ (s.draw.2.enqueue ⟨s.draw.1, id⟩).Holds ⟨s.draw.1, id⟩) :
      DeleteOutcome s id (s.draw.2.enqueue ⟨s.draw.1, id⟩) (.waiting ⟨s.draw.1, id⟩)

theorem deleteAccount_outcome {status : Status Unit} (h : s.deleteAccount id = (s', status)) :
    DeleteOutcome s id s' status := by
  by_cases hl : id ∈ s.lockable
  · rw [deleteAccount_of_mem_lockable hl] at h
    split at h
    · rename_i holds
      cases h
      exact .granted hl holds rfl
    · rename_i behind
      cases h
      exact .queued hl behind
  · simp only [deleteAccount, request?_of_not_mem (s := s.draw.2) (r := ⟨s.draw.1, id⟩) hl] at h
    cases h
    exact .refused _

/-! ## Going on with a call that waits -/

variable {now : Timestamp}

theorem resume_add (amount : Amount) (holds : s.Holds r) :
    s.resume now r (.addBalance r.ticket r.account amount) =
      ((s.addGranted r amount).1, .answered (s.addGranted r amount).2) := by
  simp [resume, holds]

theorem resume_delete (holds : s.Holds r) :
    s.resume now r (.deleteAccount r.account) =
      ((s.deleteGranted r).1, .answered (s.deleteGranted r).2) := by
  simp [resume, holds]

theorem resume_of_not_holds {c : Call} (behind : ¬ s.Holds r) :
    s.resume now r c = (s, .waiting r) :=
  if_neg behind

theorem holds_of_resume {c : Call} {answer : Except StoreError c.Reply}
    (h : s.resume now r c = (s', .answered answer)) : s.Holds r := by
  by_contra behind
  cases (resume_of_not_holds behind).symm.trans h

theorem addGranted_of_resume {answer : Except StoreError Account}
    (h : s.resume now r (.addBalance r.ticket r.account amount) = (s', .answered answer)) :
    s.Holds r ∧ s.addGranted r amount = (s', answer) := by
  have holds := holds_of_resume h
  cases (resume_add amount holds).symm.trans h
  exact ⟨holds, rfl⟩

theorem deleteGranted_of_resume {answer : Except StoreError Unit}
    (h : s.resume now r (.deleteAccount r.account) = (s', .answered answer)) :
    s.Holds r ∧ s.deleteGranted r = (s', answer) := by
  have holds := holds_of_resume h
  cases (resume_delete holds).symm.trans h
  exact ⟨holds, rfl⟩

end Store
end Giro
