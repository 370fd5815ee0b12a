import Giro.Proofs.Discard

/-!
# What is private to a transaction

Whatever a transaction does short of its commit changes only what is private to it: its own rows and
its own requests, and the numbers given to entries and transfers. A call of it that fails or has to
wait takes nothing from what it has staged.
-/

namespace Giro

namespace Store

variable {s s' : Store} {t : Nat} {r : LockRequest} {f : Transaction → Transaction} {α : Type}
    {now : Timestamp}

/-- Two stores differ only in what is private to a transaction, and in the numbers given to entries
and transfers. Others keep the rows that they have. -/
structure Private (t : Nat) (s s' : Store) : Prop where
  tables : s'.tables = s.tables
  lockable : s'.lockable = s.lockable
  account : s'.issued.account = s.issued.account
  ticket : s'.issued.ticket = s.issued.ticket
  entry : s.issued.entry ≤ s'.issued.entry
  transfer : s.issued.transfer ≤ s'.issued.transfer
  transactions : (s'.transactions.filter fun tx => tx.ticket ≠ t) =
    s.transactions.filter fun tx => tx.ticket ≠ t
  requests : (s'.requests.filter fun r => r.ticket ≠ t) = s.requests.filter fun r => r.ticket ≠ t
  holds : ∀ r, r.ticket ≠ t → s.Holds r → s'.Holds r

theorem Private.refl (t : Nat) (s : Store) : Private t s s :=
  ⟨rfl, rfl, rfl, rfl, Nat.le_refl _, Nat.le_refl _, rfl, rfl, fun _ _ h => h⟩

theorem Private.trans {s'' : Store} (h : Private t s s') (h' : Private t s' s'') :
    Private t s s'' where
  tables := h'.tables.trans h.tables
  lockable := h'.lockable.trans h.lockable
  account := h'.account.trans h.account
  ticket := h'.ticket.trans h.ticket
  entry := Nat.le_trans h.entry h'.entry
  transfer := Nat.le_trans h.transfer h'.transfer
  transactions := h'.transactions.trans h.transactions
  requests := h'.requests.trans h.requests
  holds r hr hold := h'.holds r hr (h.holds r hr hold)

/-- All that it leaves once it is discarded. -/
theorem Private.discard_eq (h : Private t s s') : s'.discard t = { s.discard t with
    issued := { s.issued with entry := s'.issued.entry, transfer := s'.issued.transfer } } := by
  have hissued : s'.issued =
      { s.issued with entry := s'.issued.entry, transfer := s'.issued.transfer } := by
    cases hs : s'.issued
    have := h.account
    have := h.ticket
    simp_all
  simp only [discard, h.tables, h.lockable, h.transactions, h.requests]
  rw [← hissued]

theorem private_of_discard (h : s'.discard t = s.discard t)
    (holds : ∀ r, r.ticket ≠ t → s.Holds r → s'.Holds r) : Private t s s' := by
  simp only [discard, Store.mk.injEq] at h
  obtain ⟨htables, hissued, hlockable, hrequests, htransactions⟩ := h
  exact ⟨htables, hlockable, by rw [hissued], by rw [hissued], Nat.le_of_eq (by rw [hissued]),
    Nat.le_of_eq (by rw [hissued]), htransactions, hrequests, holds⟩

theorem private_update (s : Store) (ticket_f : ∀ tx, (f tx).ticket = tx.ticket) :
    Private t s (s.update t f) :=
  private_of_discard (discard_update_self ticket_f) fun _ _ holds => holds

theorem private_enqueue (own : r.ticket = t) : Private t s (s.enqueue r) :=
  private_of_discard (discard_enqueue_self own) fun _ _ holds => holds.enqueue

theorem find?_erase_of_find? {α : Type} [BEq α] [LawfulBEq α] {p : α → Bool} {l : List α} {a b : α}
    (h : l.find? p = some a) (hne : a ≠ b) : (l.erase b).find? p = some a := by
  induction l with
  | nil => cases h
  | cons c l ih =>
    by_cases hp : p c
    · have : c = a := by simpa [hp] using h
      subst this
      rw [List.erase_cons_tail (by simpa using hne)]
      simp [hp]
    · have hl : l.find? p = some a := by simpa [hp] using h
      by_cases hc : c = b
      · subst hc
        rw [List.erase_cons_head]
        exact hl
      · rw [List.erase_cons_tail (by simpa using hc)]
        simp [hp, ih hl]

theorem private_withdraw (own : r.ticket = t) : Private t s (s.withdraw r) := by
  apply private_of_discard (discard_withdraw_self own)
  intro q hq holds
  rw [holds_iff] at holds ⊢
  apply find?_erase_of_find? holds
  rintro rfl
  exact hq own

theorem private_discard (s : Store) (t : Nat) : Private t s (s.discard t) :=
  private_of_discard (discard_discard s t) fun _ hr holds => holds.discard hr

theorem private_addGranted {amount : Amount} {answer : Except StoreError Account}
    (own : r.ticket = t) (h : s.addGranted r amount = (s', answer)) : Private t s s' := by
  subst own
  rcases addGranted_cases h with ⟨_, rfl, _⟩ | ⟨row, _, ⟨a, ha, _⟩ | ⟨rfl, _⟩⟩
  · exact private_withdraw rfl
  · obtain ⟨balance, _, _, rfl⟩ := addStaged_eq_ok_iff.mp ha
    apply (private_update s _).trans (private_update _ _)
    · intro tx
      rfl
    · intro tx
      rfl
  · apply private_update
    intro tx
    rfl

theorem private_addBalance {account : Int} {amount : Amount} {status : Status Account}
    (h : s.addBalance t account amount = (s', status)) : Private t s s' := by
  cases addBalance_outcome h with
  | refused e => exact .refl t s
  | staged htx hrow ha =>
    obtain ⟨balance, _, _, rfl⟩ := addStaged_eq_ok_iff.mp ha
    apply private_update
    intro tx
    rfl
  | granted htx hrow hl holds hg => exact (private_enqueue rfl).trans (private_addGranted rfl hg)
  | queued htx hrow hl behind => exact private_enqueue rfl

theorem private_settle {result : Except StoreError (α × Store)} {status : Status α}
    (h : s.settle result = (s', status)) (ok : ∀ a, result = .ok (a, s') → Private t s s') :
    Private t s s' := by
  cases result with
  | ok x =>
    cases h
    exact ok _ rfl
  | error e =>
    cases h
    exact .refl t s

/-- Whatever a transaction does, commits apart, is its own affair. -/
theorem private_perform {c : Call} {status : Status c.Reply} (own : c.ticket? = some t)
    (uncommitted : c ≠ .commit t) (h : s.perform now c = (s', status)) : Private t s s' := by
  cases c with
  | stageTransfer n source target amount =>
    cases own
    apply private_settle h
    intro f hf
    obtain ⟨_, _, _, _, _, rfl⟩ := stageTransfer_eq_ok_iff.mp hf
    have counted : Private t s { s with issued.transfer := s.issued.transfer + 1 } :=
      { Private.refl t s with transfer := Nat.le_succ _ }
    apply counted.trans (private_update _ _)
    intro tx
    rfl
  | stageEntry n account amount =>
    cases own
    apply private_settle h
    intro e he
    obtain ⟨_, _, _, rfl⟩ := stageEntry_eq_ok_iff.mp he
    have counted : Private t s { s with issued.entry := s.issued.entry + 1 } :=
      { Private.refl t s with entry := Nat.le_succ _ }
    apply counted.trans (private_update _ _)
    intro tx
    rfl
  | addBalance n account amount =>
    cases own
    exact private_addBalance h
  | commit n =>
    cases own
    exact absurd rfl uncommitted
  | rollback n =>
    cases own
    apply private_settle h
    intro _ hr
    obtain ⟨_, rfl⟩ := rollback_eq_ok_iff.mp (Traffic.map_unit_eq_ok_iff.mp hr)
    exact private_discard s t
  | _ => cases own

/-! ## What a failure leaves to the transaction -/

/-- A transaction has staged what it had staged. At most it has locked one row more, which it has
copied as it is committed. -/
structure Retains (accounts : List Account) (tx tx' : Transaction) : Prop where
  entries : tx'.entries = tx.entries
  transfers : tx'.transfers = tx.transfers
  rows : tx'.rows = tx.rows ∨
    ∃ a ∈ accounts, tx.row? a.id = none ∧ tx'.rows = tx.rows ++ [a]

theorem Retains.refl (accounts : List Account) (tx : Transaction) : Retains accounts tx tx :=
  ⟨rfl, rfl, Or.inl rfl⟩

/-- A commit would show the same balances. -/
theorem Retains.publish_eq {accounts : List Account} {tx tx' : Transaction}
    (h : Retains accounts tx tx') (nodup : (accounts.map Account.id).Nodup) {x : Account}
    (hx : x ∈ accounts) : tx'.publish x = tx.publish x := by
  have row?_eq (tx : Transaction) : tx.row? x.id = tx.rows.find? fun a => a.id == x.id := rfl
  rcases h.rows with hrows | ⟨a, ha, hnone, hrows⟩
  · simp only [Transaction.publish, row?_eq, hrows]
  · by_cases hid : a.id = x.id
    · have : a = x := List.inj_on_of_nodup_map nodup ha hx hid
      subst this
      rw [Transaction.publish_eq_self hnone]
      rw [row?_eq] at hnone
      simp only [Transaction.publish, row?_eq, hrows, List.find?_append, hnone]
      simp
    · simp only [Transaction.publish, row?_eq, hrows, List.find?_append]
      simp [hid]

theorem transaction?_update_self (ticket_f : ∀ tx, (f tx).ticket = tx.ticket) :
    (s.update t f).transaction? t = (s.transaction? t).map f := by
  unfold transaction?
  rw [update_transactions]
  induction s.transactions with
  | nil => rfl
  | cons tx txs ih =>
    by_cases h : tx.ticket = t
    · simp [h, ticket_f]
    · simpa [h] using ih

theorem retains_addGranted {tx : Transaction} {amount : Amount} {e : StoreError}
    (htx : s.transaction? r.ticket = some tx) (hnone : tx.row? r.account = none)
    (h : s.addGranted r amount = (s', .error e)) :
    ∃ tx', s'.transaction? r.ticket = some tx' ∧ Retains s.tables.accounts tx tx' := by
  rcases addGranted_cases h with ⟨_, rfl, _⟩ | ⟨row, hrow, ⟨_, _, he⟩ | ⟨rfl, _⟩⟩
  · exact ⟨tx, htx, .refl _ tx⟩
  · cases he
  · obtain ⟨hmem, hid⟩ := Tables.mem_of_account? hrow
    refine ⟨{ tx with rows := tx.rows ++ [row] }, ?_, rfl, rfl, Or.inr ⟨row, hmem, ?_, rfl⟩⟩
    · unfold copyRow
      rw [transaction?_update_self, htx]
      · rfl
      · intro tx
        rfl
    · rwa [hid]

theorem retains_of_eq {tx : Transaction} (htx : s.transaction? t = some tx) (h : s' = s) :
    ∃ tx', s'.transaction? t = some tx' ∧ Retains s.tables.accounts tx tx' := by
  subst h
  exact ⟨tx, htx, .refl _ tx⟩

/-- A call of a transaction that fails or has to wait takes nothing from what it has staged. -/
theorem retains_perform {tx : Transaction} {c : Call} {status : Status c.Reply}
    (htx : s.transaction? t = some tx) (own : c.ticket? = some t)
    (fails : ∀ a, status ≠ .answered (.ok a)) (h : s.perform now c = (s', status)) :
    ∃ tx', s'.transaction? t = some tx' ∧ Retains s.tables.accounts tx tx' := by
  have of_settle {α : Type} {result : Except StoreError (α × Store)} {status : Status α}
      (fails : ∀ a, status ≠ .answered (.ok a)) (h : s.settle result = (s', status)) : s' = s := by
    cases result with
    | ok x =>
      cases h
      exact absurd rfl (fails x.1)
    | error e =>
      cases h
      rfl
  cases c with
  | addBalance n account amount =>
    cases own
    cases addBalance_outcome h with
    | refused e => exact retains_of_eq htx rfl
    | staged htx' hrow ha => exact absurd rfl (fails _)
    | @granted _ tx' answer htx' hnone hl holds hg =>
      cases htx.symm.trans htx'
      cases answer with
      | ok a => exact absurd rfl (fails a)
      | error e =>
        exact retains_addGranted (s := s.enqueue ⟨t, account⟩) (r := ⟨t, account⟩) htx hnone hg
    | queued htx' hrow hl behind => exact ⟨tx, htx, .refl _ tx⟩
  | stageTransfer | stageEntry | commit | rollback => exact retains_of_eq htx (of_settle fails h)
  | _ => cases own

/-! ## Who waits for it -/

/-- Whoever stands in the queue before a request for the same row is the transaction. -/
def BlockedOnlyBy (s : Store) (t : Nat) (r : LockRequest) : Prop :=
  ∀ q, [q, r].Sublist s.requests → q.account = r.account → q.ticket = t

theorem BlockedOnlyBy.of_sublist (blocked : s.BlockedOnlyBy t r)
    (h : s'.requests.Sublist s.requests) : s'.BlockedOnlyBy t r :=
  fun q hq => blocked q (hq.trans h)

/-- Those who come later stand behind. -/
theorem BlockedOnlyBy.of_append {q : LockRequest} (blocked : s.BlockedOnlyBy t r)
    (h : s'.requests.Sublist (s.requests ++ [q])) (hne : r ≠ q) : s'.BlockedOnlyBy t r := by
  intro p hp
  apply blocked p
  obtain ⟨before, after, hsplit, hbefore, hafter⟩ := List.sublist_append_iff.mp (hp.trans h)
  rcases List.sublist_singleton.mp hafter with rfl | rfl
  · rw [hsplit, List.append_nil]
    exact hbefore
  · have hlast := congrArg List.getLast? hsplit
    exact absurd (by simpa using hlast) hne

/-- Without the transaction the request has its row. -/
theorem BlockedOnlyBy.holds (blocked : s.BlockedOnlyBy t r) (hr : r ∈ s.requests)
    (ended : ∀ q ∈ s.requests, q.ticket ≠ t) : s.Holds r := by
  obtain ⟨before, after, hsplit⟩ := List.append_of_mem hr
  have none_before : before.find? (fun q => q.account == r.account) = none := by
    apply List.find?_eq_none.mpr
    intro q hq haccount
    have sublist : [q, r].Sublist s.requests := by
      rw [hsplit]
      exact (List.singleton_sublist.mpr hq).append (List.singleton_sublist.mpr List.mem_cons_self)
    have hmem : q ∈ s.requests := by
      rw [hsplit]
      exact List.mem_append_left _ hq
    exact ended q hmem (blocked q sublist (by simpa using haccount))
  rw [holds_iff, hsplit]
  exact find?_append_cons none_before (by simp)

end Store
end Giro
