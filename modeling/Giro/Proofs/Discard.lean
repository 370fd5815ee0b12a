import Giro.Proofs.Traffic

/-!
# A store without one of its transactions

What a call to another transaction, or to none, comes to once a transaction is discarded: the same
answer, and the same store without that transaction. Where a call has to wait it is enough that it
joins the queue, and `discard_enqueue` says that it does so alike.
-/

namespace Giro

namespace Store

variable {s s' : Store} {t n : Nat} {r : LockRequest} {f : Transaction → Transaction}

/-! ## The parts of an operation -/

theorem transaction?_discard (other : n ≠ t) : (s.discard t).transaction? n = s.transaction? n := by
  unfold transaction?
  rw [discard_transactions, List.find?_filter]
  congr 1
  funext tx
  by_cases h : tx.ticket = n
  · simp [h, other]
  · simp [h]

theorem discard_update_self (ticket_f : ∀ tx, (f tx).ticket = tx.ticket) :
    (s.update t f).discard t = s.discard t := by
  unfold discard
  congr 1
  rw [update_transactions]
  induction s.transactions with
  | nil => rfl
  | cons tx txs ih =>
    by_cases h : tx.ticket = t
    · simpa [h, ticket_f] using ih
    · simpa [h] using ih

theorem discard_update (other : n ≠ t) (ticket_f : ∀ tx, (f tx).ticket = tx.ticket) :
    (s.update n f).discard t = (s.discard t).update n f := by
  unfold discard update
  congr 1
  induction s.transactions with
  | nil => rfl
  | cons tx txs ih =>
    by_cases h : tx.ticket = n
    · simpa [h, ticket_f, other] using ih
    · by_cases ht : tx.ticket = t
      · simpa [h, ht, other.symm] using ih
      · simpa [h, ht] using ih

theorem discard_discard (s : Store) (t : Nat) : (s.discard t).discard t = s.discard t := by
  simp [discard, List.filter_filter]

theorem discard_comm (s : Store) (n t : Nat) :
    (s.discard n).discard t = (s.discard t).discard n := by
  simp [discard, List.filter_filter, Bool.and_comm]

theorem discard_enqueue_self (own : r.ticket = t) : (s.enqueue r).discard t = s.discard t := by
  simp [discard, enqueue, own]

theorem discard_enqueue (other : r.ticket ≠ t) :
    (s.enqueue r).discard t = (s.discard t).enqueue r := by
  simp [discard, enqueue, other]

theorem discard_withdraw (s : Store) (r : LockRequest) (t : Nat) :
    (s.withdraw r).discard t = (s.discard t).withdraw r := by
  simp only [discard, withdraw, List.erase_filter]

theorem discard_withdraw_self (own : r.ticket = t) :
    (s.withdraw r).discard t = s.discard t := by
  rw [discard_withdraw]
  have gone : r ∉ (s.discard t).requests := by simp [own]
  unfold withdraw
  rw [List.erase_of_not_mem gone]

/-! ## Operations of others -/

variable {α : Type} {now : Timestamp}

/-- A result, and what is left of its store without a transaction. -/
def without (t : Nat) : Except StoreError (α × Store) → Except StoreError (α × Store) :=
  Except.map fun x => (x.1, x.2.discard t)

theorem settle_without (s : Store) (t : Nat) (result : Except StoreError (α × Store)) :
    (s.discard t).settle (without t result) =
      ((s.settle result).1.discard t, (s.settle result).2) := by
  cases result <;> rfl

theorem without_refusal {p : Prop} [Decidable p] (e : StoreError)
    (result : Except StoreError (α × Store)) :
    without t (if p then .error e else result) = if p then .error e else without t result := by
  split <;> rfl

theorem createUser_discard (new : NewUser) :
    (s.discard t).createUser new now = without t (s.createUser new now) := by
  simp only [createUser, discard_tables, without_refusal]
  rfl

theorem createSession_discard (new : NewSession) :
    (s.discard t).createSession new now = without t (s.createSession new now) := by
  simp only [createSession, discard_tables, without_refusal]
  rfl

theorem createAccount_discard (new : NewAccount) :
    (s.discard t).createAccount new now = without t (s.createAccount new now) := by
  simp only [createAccount, discard_tables, without_refusal]
  rfl

theorem stageTransfer_discard (other : n ≠ t) (source target : Int) (amount : Amount) :
    (s.discard t).stageTransfer n source target amount now =
      without t (s.stageTransfer n source target amount now) := by
  simp only [stageTransfer, discard_tables, transaction?_discard other, without_refusal]
  simp only [without, Except.map]
  rw [discard_update other]
  · rfl
  · intro tx
    rfl

theorem stageEntry_discard (other : n ≠ t) (account : Int) (amount : Amount) :
    (s.discard t).stageEntry n account amount now =
      without t (s.stageEntry n account amount now) := by
  simp only [stageEntry, discard_tables, transaction?_discard other, without_refusal]
  simp only [without, Except.map]
  rw [discard_update other]
  · rfl
  · intro tx
    rfl

theorem commit_discard (other : n ≠ t) :
    (s.discard t).commit n = (s.commit n).map fun s' => s'.discard t := by
  simp only [commit, transaction?_discard other]
  cases s.transaction? n with
  | none => rfl
  | some tx =>
    simp only [Except.map]
    rw [discard_comm]
    rfl

theorem rollback_discard (other : n ≠ t) :
    (s.discard t).rollback n = (s.rollback n).map fun s' => s'.discard t := by
  simp only [rollback, transaction?_discard other]
  split
  · rfl
  · simp only [Except.map]
    rw [discard_comm]

theorem addStaged_discard (other : n ≠ t) (row : Account) (amount : Amount) :
    (s.discard t).addStaged n row amount = without t (s.addStaged n row amount) := by
  unfold addStaged
  cases Amount.add? row.balance amount with
  | none => rfl
  | some balance =>
    simp only [without, Except.map]
    rw [discard_update other]
    intro tx
    rfl

theorem copyRow_discard (other : n ≠ t) (row : Account) :
    (s.copyRow n row).discard t = (s.discard t).copyRow n row :=
  discard_update other fun _ => rfl

theorem addGranted_discard (other : r.ticket ≠ t) (amount : Amount) :
    (s.discard t).addGranted r amount =
      ((s.addGranted r amount).1.discard t, (s.addGranted r amount).2) := by
  cases hrow : s.tables.account? r.account with
  | none =>
    simp only [addGranted, discard_tables, hrow]
    rw [discard_withdraw]
  | some row =>
    have hcopy : ((s.discard t).copyRow r.ticket row).addStaged r.ticket row amount =
        without t ((s.copyRow r.ticket row).addStaged r.ticket row amount) := by
      rw [← copyRow_discard other, addStaged_discard other]
    unfold copyRow at hcopy
    simp only [addGranted, discard_tables, hrow, hcopy]
    cases (s.update r.ticket fun tx => { tx with rows := tx.rows ++ [row] }).addStaged r.ticket row
      amount with
    | ok x => rfl
    | error e =>
      simp only [without, Except.map]
      rw [← copyRow, ← copyRow, copyRow_discard other]

theorem deleteGranted_discard (s : Store) (r : LockRequest) (t : Nat) :
    (s.discard t).deleteGranted r = ((s.deleteGranted r).1.discard t, (s.deleteGranted r).2) := by
  simp only [deleteGranted, ← discard_withdraw, discard_tables]
  split
  · rfl
  split
  · rfl
  · rfl

/-! ## Calls of others -/

theorem addBalance_discard (other : n ≠ t) {account : Int} {amount : Amount}
    {answer : Except StoreError Account}
    (h : s.addBalance n account amount = (s', .answered answer)) :
    (s.discard t).addBalance n account amount = (s'.discard t, .answered answer) := by
  have hfind := transaction?_discard (s := s) other
  cases htx : s.transaction? n with
  | none =>
    rw [htx] at hfind
    simp only [addBalance, htx] at h
    cases h
    simp only [addBalance, hfind]
  | some tx =>
    rw [htx] at hfind
    cases hrow : tx.row? account with
    | some row =>
      simp only [addBalance, htx, hrow] at h
      simp only [addBalance, hfind, hrow, addStaged_discard other]
      cases hs : s.addStaged n row amount with
      | ok x =>
        rw [hs] at h
        cases h
        rfl
      | error e =>
        rw [hs] at h
        cases h
        rfl
    | none =>
      by_cases hl : account ∈ s.lockable
      · rw [addBalance_of_row?_eq_none amount htx hrow hl] at h
        rw [addBalance_of_row?_eq_none (s := s.discard t) amount hfind hrow hl,
          ← discard_enqueue (r := ⟨n, account⟩) other]
        split at h
        · rename_i holds
          cases h
          rw [if_pos (holds.discard other), addGranted_discard (r := ⟨n, account⟩) other]
        · cases h
      · simp only [addBalance, htx, hrow, request?_of_not_mem (r := ⟨n, account⟩) hl] at h
        cases h
        simp only [addBalance, hfind, hrow,
          request?_of_not_mem (s := s.discard t) (r := ⟨n, account⟩) hl]

theorem draw_discard (s : Store) (t : Nat) :
    (s.discard t).draw = (s.draw.1, s.draw.2.discard t) :=
  rfl

theorem deleteAccount_discard (issued : t ≤ s.issued.ticket) {id : Int}
    {answer : Except StoreError Unit} (h : s.deleteAccount id = (s', .answered answer)) :
    (s.discard t).deleteAccount id = (s'.discard t, .answered answer) := by
  have other : s.draw.1 ≠ t := by
    unfold draw
    omega
  by_cases hl : id ∈ s.lockable
  · rw [deleteAccount_of_mem_lockable hl] at h
    split at h
    · rename_i holds
      cases h
      have hgrant := deleteGranted_discard (s.draw.2.enqueue ⟨s.draw.1, id⟩) ⟨s.draw.1, id⟩ t
      have holds' := holds.discard other
      rw [discard_enqueue (r := ⟨s.draw.1, id⟩) other] at hgrant holds'
      rw [deleteAccount_of_mem_lockable (s := s.discard t) hl]
      refine (if_pos holds').trans ?_
      rw [draw_discard, hgrant]
    · cases h
  · simp only [deleteAccount, request?_of_not_mem (s := s.draw.2) (r := ⟨s.draw.1, id⟩) hl] at h
    cases h
    have hl' : id ∉ (s.discard t).draw.2.lockable := hl
    simp only [deleteAccount, request?_of_not_mem (r := ⟨(s.discard t).draw.1, id⟩) hl']

theorem begin_discard (issued : t ≤ s.issued.ticket) :
    (s.discard t).begin = (s.begin.1, s.begin.2.discard t) := by
  have other : s.issued.ticket + 1 ≠ t := by omega
  simp [begin, draw, discard, other]

theorem settle_unit_discard {result : Except StoreError Store} :
    (s.discard t).settle ((result.map fun s' => s'.discard t).map fun next => ((), next)) =
      ((s.settle (result.map fun next => ((), next))).1.discard t,
        (s.settle (result.map fun next => ((), next))).2) := by
  cases result <;> rfl

/-- A call that is answered at once is answered alike without a transaction that it is not made
to. -/
theorem perform_discard {c : Call} (issued : t ≤ s.issued.ticket) (other : c.ticket? ≠ some t)
    {answer : Except StoreError c.Reply} (h : s.perform now c = (s', .answered answer)) :
    (s.discard t).perform now c = (s'.discard t, .answered answer) := by
  cases c with
  | createUser new =>
    simp only [perform, createUser_discard, settle_without] at h ⊢
    rw [h]
  | createSession new =>
    simp only [perform, createSession_discard, settle_without] at h ⊢
    rw [h]
  | createAccount new =>
    simp only [perform, createAccount_discard, settle_without] at h ⊢
    rw [h]
  | deleteAccount id => exact deleteAccount_discard issued h
  | begin =>
    cases h
    simp only [perform, begin_discard issued]
  | stageTransfer n source target amount =>
    have hn : n ≠ t := fun heq => other (congrArg some heq)
    simp only [perform, stageTransfer_discard hn, settle_without] at h ⊢
    rw [h]
  | stageEntry n account amount =>
    have hn : n ≠ t := fun heq => other (congrArg some heq)
    simp only [perform, stageEntry_discard hn, settle_without] at h ⊢
    rw [h]
  | addBalance n account amount =>
    exact addBalance_discard (fun heq => other (congrArg some heq)) h
  | commit n =>
    have hn : n ≠ t := fun heq => other (congrArg some heq)
    simp only [perform, commit_discard hn, settle_unit_discard] at h ⊢
    rw [h]
  | rollback n =>
    have hn : n ≠ t := fun heq => other (congrArg some heq)
    simp only [perform, rollback_discard hn, settle_unit_discard] at h ⊢
    rw [h]
  | _ =>
    cases h
    rfl

/-- So is a call of another that has waited. -/
theorem resume_discard {w : Waiting} (other : w.request.ticket ≠ t)
    {answer : Except StoreError w.call.Reply}
    (h : s.resume now w.request w.call = (s', .answered answer)) :
    (s.discard t).resume now w.request w.call = (s'.discard t, .answered answer) := by
  obtain ⟨r, purpose⟩ := w
  cases purpose with
  | add amount =>
    obtain ⟨holds, hg⟩ := addGranted_of_resume h
    have hd := addGranted_discard (s := s) other amount
    rw [hg] at hd
    refine (resume_add amount (holds.discard other)).trans ?_
    rw [hd]
    rfl
  | delete =>
    obtain ⟨holds, hg⟩ := deleteGranted_of_resume h
    have hd := deleteGranted_discard s r t
    rw [hg] at hd
    refine (resume_delete (holds.discard other)).trans ?_
    rw [hd]
    rfl

end Store
end Giro
