import Mathlib.Data.List.Nodup
import Giro.Store.Call

/-!
# What the operations of the store do

For each operation that writes: when it succeeds, and the store that it leaves. The modules that
follow use these laws and never open an operation again.
-/

namespace Giro

theorem find?_key_of_mem {κ ρ : Type} [BEq κ] [LawfulBEq κ] (key : ρ → κ) {rows : List ρ} {row : ρ}
    (nodup : (rows.map key).Nodup) (hrow : row ∈ rows) :
    rows.find? (fun r => key r == key row) = some row := by
  cases h : rows.find? fun r => key r == key row with
  | none =>
    have := List.find?_eq_none.mp h row hrow
    simp at this
  | some r =>
    have hkey : key r = key row := by simpa using List.find?_some h
    rw [List.inj_on_of_nodup_map nodup (List.mem_of_find?_eq_some h) hrow hkey]

/-- A row apart from the others, which have other keys. -/
theorem perm_cons_filter {κ ρ : Type} [DecidableEq κ] {key : ρ → κ} {rows : List ρ} {row : ρ}
    (nodup : (rows.map key).Nodup) (hrow : row ∈ rows) :
    rows.Perm (row :: rows.filter fun r => key r ≠ key row) := by
  classical
  have herase : rows.erase row = rows.filter fun r => key r ≠ key row := by
    rw [nodup.of_map.erase_eq_filter]
    apply List.filter_congr
    intro r hr
    have : r = row ↔ key r = key row :=
      ⟨congrArg key, fun hkey => List.inj_on_of_nodup_map nodup hr hrow hkey⟩
    rw [Bool.eq_iff_iff]
    simpa using not_congr this
  rw [← herase]
  exact List.perm_cons_erase hrow

namespace Account

/-- Rows that differ at most in their balance. -/
def Agrees (row a : Account) : Prop := { a with balance := row.balance } = row

theorem agrees_refl (a : Account) : Agrees a a := rfl

theorem Agrees.id_eq {row a : Account} (h : Agrees row a) : row.id = a.id :=
  (congrArg Account.id h).symm

theorem Agrees.eq {row a : Account} (h : Agrees row a) : row = { a with balance := row.balance } :=
  h.symm

theorem Agrees.with_balance {row a : Account} (h : Agrees row a) (balance : Amount) :
    Agrees { row with balance } a := by
  rw [h.eq]
  rfl

end Account

namespace Transaction

@[simp] theorem id_setBalance (n : Int) (b : Amount) (a : Account) :
    (setBalance n b a).id = a.id := by
  unfold setBalance
  split <;> rfl

@[simp] theorem id_publish (tx : Transaction) (a : Account) : (tx.publish a).id = a.id := by
  unfold publish
  split <;> rfl

theorem agrees_setBalance {n : Int} {b : Amount} {row a : Account} (h : row.Agrees a) :
    (setBalance n b row).Agrees a := by
  unfold setBalance
  split
  · exact h.with_balance b
  · exact h

theorem agrees_publish {tx : Transaction} {row a : Account} (h : row.Agrees a) :
    row.Agrees (tx.publish a) := by
  unfold publish
  split
  · exact h
  · exact h

theorem publish_eq_self {tx : Transaction} {a : Account} (h : tx.row? a.id = none) :
    tx.publish a = a := by
  simp [publish, h]

theorem row?_eq_none_iff {tx : Transaction} {id : Int} :
    tx.row? id = none ↔ ∀ row ∈ tx.rows, row.id ≠ id :=
  Store.Table.find?_eq_none_iff

theorem mem_of_row? {tx : Transaction} {id : Int} {row : Account} (h : tx.row? id = some row) :
    row ∈ tx.rows ∧ row.id = id :=
  ⟨Store.Table.mem_of_find? h, Store.Table.id_of_find? h⟩

end Transaction

namespace Tables

theorem mem_of_account? {t : Tables} {id : Int} {a : Account} (h : t.account? id = some a) :
    a ∈ t.accounts ∧ a.id = id :=
  ⟨Store.Table.mem_of_find? h, Store.Table.id_of_find? h⟩

end Tables

namespace Store

def enqueue (s : Store) (r : LockRequest) : Store := { s with requests := s.requests ++ [r] }

/-! ## Fields that an operation leaves alone -/

section Fields

variable (s : Store) (r : LockRequest) (ticket : Nat) (f : Transaction → Transaction)
    (tx : Transaction)

@[simp] theorem enqueue_tables : (s.enqueue r).tables = s.tables := rfl
@[simp] theorem enqueue_issued : (s.enqueue r).issued = s.issued := rfl
@[simp] theorem enqueue_lockable : (s.enqueue r).lockable = s.lockable := rfl
@[simp] theorem enqueue_transactions : (s.enqueue r).transactions = s.transactions := rfl
@[simp] theorem enqueue_requests : (s.enqueue r).requests = s.requests ++ [r] := rfl

@[simp] theorem withdraw_tables : (s.withdraw r).tables = s.tables := rfl
@[simp] theorem withdraw_issued : (s.withdraw r).issued = s.issued := rfl
@[simp] theorem withdraw_lockable : (s.withdraw r).lockable = s.lockable := rfl
@[simp] theorem withdraw_transactions : (s.withdraw r).transactions = s.transactions := rfl
@[simp] theorem withdraw_requests : (s.withdraw r).requests = s.requests.erase r := rfl

@[simp] theorem update_tables : (s.update ticket f).tables = s.tables := rfl
@[simp] theorem update_issued : (s.update ticket f).issued = s.issued := rfl
@[simp] theorem update_lockable : (s.update ticket f).lockable = s.lockable := rfl
@[simp] theorem update_requests : (s.update ticket f).requests = s.requests := rfl
@[simp] theorem update_transactions : (s.update ticket f).transactions =
    s.transactions.map fun tx => if tx.ticket = ticket then f tx else tx := rfl

@[simp] theorem discard_tables : (s.discard ticket).tables = s.tables := rfl
@[simp] theorem discard_issued : (s.discard ticket).issued = s.issued := rfl
@[simp] theorem discard_lockable : (s.discard ticket).lockable = s.lockable := rfl
@[simp] theorem discard_requests :
    (s.discard ticket).requests = s.requests.filter fun r => r.ticket ≠ ticket := rfl
@[simp] theorem discard_transactions :
    (s.discard ticket).transactions = s.transactions.filter fun tx => tx.ticket ≠ ticket := rfl

@[simp] theorem publish_issued : (s.publish tx).issued = s.issued := rfl
@[simp] theorem publish_lockable : (s.publish tx).lockable = s.lockable := rfl
@[simp] theorem publish_requests : (s.publish tx).requests = s.requests := rfl
@[simp] theorem publish_transactions : (s.publish tx).transactions = s.transactions := rfl
@[simp] theorem publish_users : (s.publish tx).tables.users = s.tables.users := rfl
@[simp] theorem publish_sessions : (s.publish tx).tables.sessions = s.tables.sessions := rfl
@[simp] theorem publish_accounts :
    (s.publish tx).tables.accounts = s.tables.accounts.map tx.publish := rfl

end Fields

theorem request?_of_mem {s : Store} {r : LockRequest} (h : r.account ∈ s.lockable) :
    s.request? r = some (s.enqueue r) :=
  if_pos h

theorem request?_of_not_mem {s : Store} {r : LockRequest} (h : r.account ∉ s.lockable) :
    s.request? r = none :=
  if_neg h

/-! ## Transactions by their ticket -/

variable {s s' : Store} {now : Timestamp} {ticket : Nat}

theorem mem_of_transaction? {tx : Transaction} (h : s.transaction? ticket = some tx) :
    tx ∈ s.transactions ∧ tx.ticket = ticket :=
  ⟨List.mem_of_find?_eq_some h, by simpa using List.find?_some h⟩

theorem isSome_transaction?_iff :
    (s.transaction? ticket).isSome ↔ ∃ tx ∈ s.transactions, tx.ticket = ticket := by
  simp [transaction?]

theorem mem_update {f : Transaction → Transaction} {tx : Transaction} :
    tx ∈ (s.update ticket f).transactions ↔
      (∃ old ∈ s.transactions, old.ticket = ticket ∧ f old = tx) ∨
        (tx ∈ s.transactions ∧ tx.ticket ≠ ticket) := by
  simp only [update_transactions, List.mem_map]
  constructor
  · rintro ⟨old, hm, rfl⟩
    by_cases ht : old.ticket = ticket
    · exact Or.inl ⟨old, hm, ht, by simp [ht]⟩
    · exact Or.inr (by simp [ht, hm])
  · rintro (⟨old, hm, ht, rfl⟩ | ⟨hm, ht⟩)
    · exact ⟨old, hm, by simp [ht]⟩
    · exact ⟨tx, hm, by simp [ht]⟩

/-! ## Operations that write rows -/

theorem ite_error_eq_ok_iff {ε α : Type} {p : Prop} [Decidable p] {e : ε} {x : Except ε α} {a : α} :
    (if p then .error e else x) = .ok a ↔ ¬ p ∧ x = .ok a := by
  split
  · simp_all
  · simp_all

theorem createUser_eq_ok_iff {new : NewUser} {u : User} :
    s.createUser new now = .ok (u, s') ↔
      s.tables.user? new.username = none ∧ (¬ ∃ v ∈ s.tables.users, v.email = new.email) ∧
      u = ⟨new.username, new.hashedPassword, new.fullName, new.email, .epoch, now⟩ ∧
      s' = { s with tables.users := s.tables.users ++ [u] } := by
  simp only [createUser, ite_error_eq_ok_iff, Bool.not_eq_true, Option.isSome_eq_false_iff,
    Option.isNone_iff_eq_none]
  refine and_congr_right fun _ => and_congr_right fun _ => ⟨?_, ?_⟩
  · intro h
    cases h
    exact ⟨rfl, rfl⟩
  · rintro ⟨rfl, rfl⟩
    rfl

theorem createSession_eq_ok_iff {new : NewSession} {session : Session} :
    s.createSession new now = .ok (session, s') ↔
      (s.tables.user? new.username).isSome ∧ s.tables.session? new.id = none ∧
      session = ⟨new.id, new.username, new.refreshToken, new.userAgent, new.clientIp, new.isBlocked,
        new.expiresAt, now⟩ ∧
      s' = { s with tables.sessions := s.tables.sessions ++ [session] } := by
  simp only [createSession, ite_error_eq_ok_iff, Bool.not_eq_true, Option.isSome_eq_false_iff,
    Option.isNone_iff_eq_none, ← Option.isSome_iff_ne_none, ← ne_eq]
  refine and_congr_right fun _ => and_congr_right fun _ => ⟨?_, ?_⟩
  · intro h
    cases h
    exact ⟨rfl, rfl⟩
  · rintro ⟨rfl, rfl⟩
    rfl

theorem createSession_eq_ok {new : NewSession} {session : Session}
    (h : s.createSession new now = .ok (session, s')) :
    s' = { s with tables.sessions := s.tables.sessions ++ [session] } := by
  obtain ⟨_, _, _, hs⟩ := createSession_eq_ok_iff.mp h
  exact hs

theorem createAccount_eq_ok_iff {new : NewAccount} {a : Account} :
    s.createAccount new now = .ok (a, s') ↔
      (s.tables.user? new.owner).isSome ∧
      (¬ ∃ b ∈ s.tables.accounts, b.owner = new.owner ∧ b.currency = new.currency) ∧
      a = ⟨s.issued.account + 1, new.owner, new.balance, new.currency, now⟩ ∧
      s' = { s with
        tables.accounts := s.tables.accounts ++ [a]
        issued.account := s.issued.account + 1
        lockable := a.id :: s.lockable } := by
  simp only [createAccount, ite_error_eq_ok_iff, Bool.not_eq_true, Option.isNone_eq_false_iff]
  refine and_congr_right fun _ => and_congr_right fun _ => ⟨?_, ?_⟩
  · intro h
    cases h
    exact ⟨rfl, rfl⟩
  · rintro ⟨rfl, rfl⟩
    rfl

theorem stageTransfer_eq_ok_iff {source target : Int} {amount : Amount} {f : Transfer} :
    s.stageTransfer ticket source target amount now = .ok (f, s') ↔
      (s.transaction? ticket).isSome ∧ ¬ amount ≤ 0 ∧ (s.tables.account? source).isSome ∧
      (s.tables.account? target).isSome ∧ f = ⟨s.issued.transfer + 1, source, target, amount, now⟩ ∧
      s' = { s with issued.transfer := s.issued.transfer + 1 }.update ticket
        fun tx => { tx with transfers := tx.transfers ++ [f] } := by
  simp only [stageTransfer, ite_error_eq_ok_iff, Bool.not_eq_true, Option.isNone_eq_false_iff]
  refine and_congr_right fun _ => and_congr_right fun _ => and_congr_right fun _ =>
    and_congr_right fun _ => ⟨?_, ?_⟩
  · intro h
    cases h
    exact ⟨rfl, rfl⟩
  · rintro ⟨rfl, rfl⟩
    rfl

theorem stageEntry_eq_ok_iff {account : Int} {amount : Amount} {e : Entry} :
    s.stageEntry ticket account amount now = .ok (e, s') ↔
      (s.transaction? ticket).isSome ∧ (s.tables.account? account).isSome ∧
      e = ⟨s.issued.entry + 1, account, amount, now⟩ ∧
      s' = { s with issued.entry := s.issued.entry + 1 }.update ticket
        fun tx => { tx with entries := tx.entries ++ [e] } := by
  simp only [stageEntry, ite_error_eq_ok_iff, Bool.not_eq_true, Option.isNone_eq_false_iff]
  refine and_congr_right fun _ => and_congr_right fun _ => ⟨?_, ?_⟩
  · intro h
    cases h
    exact ⟨rfl, rfl⟩
  · rintro ⟨rfl, rfl⟩
    rfl

theorem commit_eq_ok_iff : s.commit ticket = .ok s' ↔
    ∃ tx, s.transaction? ticket = some tx ∧ s' = (s.publish tx).discard ticket := by
  unfold commit
  cases s.transaction? ticket with
  | none => simp
  | some tx => simp [eq_comm]

theorem rollback_eq_ok_iff : s.rollback ticket = .ok s' ↔
    (s.transaction? ticket).isSome ∧ s' = s.discard ticket := by
  simp only [rollback, ite_error_eq_ok_iff, Bool.not_eq_true, Option.isNone_eq_false_iff,
    Except.ok.injEq, @eq_comm _ s' _]

theorem perform_commit {tx : Transaction} (h : s.transaction? ticket = some tx) (now : Timestamp) :
    s.perform now (.commit ticket) = ((s.publish tx).discard ticket, .answered (.ok ())) := by
  have hcommit : s.commit ticket = .ok ((s.publish tx).discard ticket) :=
    commit_eq_ok_iff.mpr ⟨tx, h, rfl⟩
  simp only [perform, hcommit]
  rfl

theorem perform_rollback (isOpen : (s.transaction? ticket).isSome) (now : Timestamp) :
    s.perform now (.rollback ticket) = (s.discard ticket, .answered (.ok ())) := by
  have hrollback : s.rollback ticket = .ok (s.discard ticket) :=
    rollback_eq_ok_iff.mpr ⟨isOpen, rfl⟩
  simp only [perform, hrollback]
  rfl

theorem addStaged_eq_ok_iff {row a : Account} {amount : Amount} :
    s.addStaged ticket row amount = .ok (a, s') ↔
      ∃ balance : Amount, balance.toInt = row.balance.toInt + amount.toInt ∧
        a = { row with balance } ∧ s' = s.update ticket fun tx =>
          { tx with rows := tx.rows.map (Transaction.setBalance row.id balance) } := by
  unfold addStaged
  cases hb : Amount.add? row.balance amount with
  | none =>
    constructor
    · intro h
      cases h
    · rintro ⟨balance, hsum, _⟩
      rw [Amount.add?_eq_some_iff.mpr hsum] at hb
      cases hb
  | some balance =>
    have hsum := Amount.add?_eq_some_iff.mp hb
    simp only [Except.ok.injEq, Prod.mk.injEq]
    constructor
    · rintro ⟨rfl, rfl⟩
      exact ⟨balance, hsum, rfl, rfl⟩
    · rintro ⟨b, hb', rfl, rfl⟩
      have : b = balance := Int64.toInt_inj.mp (hb'.trans hsum.symm)
      subst this
      exact ⟨rfl, rfl⟩

/-! ## Operations on the rows of accounts -/

def copyRow (s : Store) (ticket : Nat) (row : Account) : Store :=
  s.update ticket fun tx => { tx with rows := tx.rows ++ [row] }

/-- Once a request has the row, the account is gone, or it is copied and the copy is added to. -/
theorem addGranted_cases {r : LockRequest} {amount : Amount} {answer : Except StoreError Account}
    (h : s.addGranted r amount = (s', answer)) :
    (s.tables.account? r.account = none ∧ s' = s.withdraw r ∧
      answer = .error (.notFound (.account r.account))) ∨
    (∃ row, s.tables.account? r.account = some row ∧
      ((∃ a, (s.copyRow r.ticket row).addStaged r.ticket row amount = .ok (a, s') ∧
          answer = .ok a) ∨
        (s' = s.copyRow r.ticket row ∧ ∃ e, answer = .error e))) := by
  unfold addGranted at h
  split at h
  · rename_i hnone
    cases h
    exact Or.inl ⟨hnone, rfl, rfl⟩
  · rename_i row hsome
    refine Or.inr ⟨row, hsome, ?_⟩
    simp only at h
    split at h
    · rename_i a next hok
      cases h
      exact Or.inl ⟨a, hok, rfl⟩
    · rename_i e _
      cases h
      exact Or.inr ⟨rfl, e, rfl⟩

/-- Once a deletion has the row, it gives it back, and the account goes unless it is named. -/
theorem deleteGranted_cases {r : LockRequest} {answer : Except StoreError Unit}
    (h : s.deleteGranted r = (s', answer)) :
    (s' = s.withdraw r ∧ ∃ e, answer = .error e) ∨
    ((s.tables.account? r.account).isSome ∧ ¬ s.tables.IsReferenced r.account ∧ answer = .ok () ∧
      s' = { s.withdraw r with
        tables.accounts := s.tables.accounts.filter fun a => a.id ≠ r.account
        lockable := s.lockable.filter (· ≠ r.account) }) := by
  by_cases hnone : (s.tables.account? r.account).isNone = true
  · have : s.deleteGranted r = (s.withdraw r, .error (.notFound (.account r.account))) :=
      if_pos hnone
    cases this.symm.trans h
    exact Or.inl ⟨rfl, _, rfl⟩
  by_cases href : s.tables.IsReferenced r.account
  · have : s.deleteGranted r =
        (s.withdraw r, .error (.constraint (.accountReferenced r.account))) :=
      (if_neg hnone).trans (if_pos href)
    cases this.symm.trans h
    exact Or.inl ⟨rfl, _, rfl⟩
  cases ((if_neg hnone).trans (if_neg href)).symm.trans h
  exact Or.inr ⟨by simpa [Option.isSome_iff_ne_none] using hnone, href, rfl, rfl⟩

theorem deleteGranted_eq_ok {r : LockRequest} (hsome : (s.tables.account? r.account).isSome)
    (unnamed : ¬ s.tables.IsReferenced r.account) : (s.deleteGranted r).2 = .ok () := by
  have hnone : ¬ (s.tables.account? r.account).isNone = true := by
    simpa [Option.isSome_iff_ne_none] using hsome
  have : s.deleteGranted r = (_, .ok ()) := (if_neg hnone).trans (if_neg unnamed)
  rw [this]

/-! ## What commits nothing -/

variable {s'' : Store}

def tickets (s : Store) : List Nat := s.transactions.map Transaction.ticket

/-- Nothing is committed, no account gets a number, and the same transactions stay open. -/
structure Keeps (s s' : Store) : Prop where
  tables : s'.tables = s.tables
  issued : s'.issued.account = s.issued.account
  tickets : s'.tickets = s.tickets

theorem Keeps.refl (s : Store) : Keeps s s := ⟨rfl, rfl, rfl⟩

theorem Keeps.trans (h : Keeps s s') (h' : Keeps s' s'') : Keeps s s'' :=
  ⟨h'.tables.trans h.tables, h'.issued.trans h.issued, h'.tickets.trans h.tickets⟩

theorem keeps_update {f : Transaction → Transaction} (ticket_f : ∀ tx, (f tx).ticket = tx.ticket)
    (t : Nat) : Keeps s (s.update t f) := by
  refine ⟨rfl, rfl, ?_⟩
  rw [tickets, update_transactions, List.map_map]
  apply List.map_congr_left
  intro tx _
  simp only [Function.comp_apply]
  split
  · exact ticket_f tx
  · rfl

theorem tickets_discard {t : Nat} {l : List Nat} (nodup : s.tickets.Nodup)
    (h : s.tickets.Perm (l ++ [t])) : (s.discard t).tickets.Perm l := by
  have hfilter : (s.discard t).tickets = s.tickets.filter fun n => n ≠ t := by
    simp only [tickets, discard_transactions, List.filter_map]
    rfl
  have hl : t ∉ l := by
    intro ht
    have hnodup := List.nodup_append.mp (h.nodup_iff.mp nodup)
    exact hnodup.2.2 t ht t (List.mem_singleton_self t) rfl
  rw [hfilter]
  refine (h.filter _).trans (List.Perm.of_eq ?_)
  have : l.filter (fun n => n ≠ t) = l := List.filter_eq_self.mpr fun n hn => by
    simpa using ne_of_mem_of_not_mem hn hl
  rw [List.filter_append, this]
  simp

theorem Keeps.isOpen (h : Keeps s s') {tx : Transaction} (htx : tx ∈ s.transactions) :
    ∃ tx' ∈ s'.transactions, tx'.ticket = tx.ticket := by
  have : tx.ticket ∈ s.tickets := List.mem_map_of_mem htx
  rw [← h.tickets] at this
  exact List.mem_map.mp this

theorem stageTransfer_keeps {t : Nat} {source target : Int} {amount : Amount} {now : Timestamp}
    {f : Transfer} (h : s.stageTransfer t source target amount now = .ok (f, s')) : Keeps s s' := by
  obtain ⟨_, _, _, _, _, rfl⟩ := stageTransfer_eq_ok_iff.mp h
  exact ⟨rfl, rfl, (keeps_update (s := s)
    (f := fun tx => { tx with transfers := tx.transfers ++ [f] })
    (fun _ => rfl) t).tickets⟩

theorem stageEntry_keeps {t : Nat} {account : Int} {amount : Amount} {now : Timestamp} {e : Entry}
    (h : s.stageEntry t account amount now = .ok (e, s')) : Keeps s s' := by
  obtain ⟨_, _, _, rfl⟩ := stageEntry_eq_ok_iff.mp h
  exact ⟨rfl, rfl, (keeps_update (s := s) (f := fun tx => { tx with entries := tx.entries ++ [e] })
    (fun _ => rfl) t).tickets⟩

theorem copyRow_keeps (t : Nat) (row : Account) : Keeps s (s.copyRow t row) :=
  keeps_update (f := fun tx => { tx with rows := tx.rows ++ [row] }) (fun _ => rfl) t

theorem addStaged_keeps {t : Nat} {row a : Account} {amount : Amount}
    (h : s.addStaged t row amount = .ok (a, s')) : Keeps s s' := by
  obtain ⟨balance, _, _, rfl⟩ := addStaged_eq_ok_iff.mp h
  exact keeps_update
    (f := fun tx => { tx with rows := tx.rows.map (Transaction.setBalance row.id balance) })
    (fun _ => rfl) t

theorem addGranted_keeps {r : LockRequest} {amount : Amount} {answer : Except StoreError Account}
    (h : s.addGranted r amount = (s', answer)) : Keeps s s' := by
  rcases addGranted_cases h with ⟨_, rfl, _⟩ | ⟨row, _, ⟨a, ha, _⟩ | ⟨rfl, _⟩⟩
  · exact ⟨rfl, rfl, rfl⟩
  · exact (copyRow_keeps r.ticket row).trans (addStaged_keeps ha)
  · exact copyRow_keeps r.ticket row

end Store
end Giro
