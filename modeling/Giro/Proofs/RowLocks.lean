import Giro.Proofs.Queue
import Giro.Proofs.Traffic

/-!
# Row locks

The invariant that keeps transactions apart: whoever has a row has it alone, and an account whose
row is locked is still there, with nothing but its balance differing from the locked copy. Every
effect of every call keeps it.
-/

namespace Giro

/-- A waiting addition is made to an open transaction that has not locked the row yet; a deletion is
no transaction. -/
def Waiting.Fits (w : Waiting) (transactions : List Transaction) : Prop :=
  match w.purpose with
  | .add _ => ∃ tx ∈ transactions, tx.ticket = w.request.ticket ∧ tx.row? w.request.account = none
  | .delete => ∀ tx ∈ transactions, tx.ticket ≠ w.request.ticket

theorem Waiting.Fits.mono {w : Waiting} {txs txs' : List Transaction} (h : w.Fits txs)
    (keeps : ∀ tx ∈ txs, tx.ticket = w.request.ticket → tx.row? w.request.account = none →
      ∃ tx' ∈ txs', tx'.ticket = w.request.ticket ∧ tx'.row? w.request.account = none)
    (old : ∀ tx' ∈ txs', tx'.ticket = w.request.ticket → ∃ tx ∈ txs, tx.ticket = w.request.ticket) :
    w.Fits txs' := by
  unfold Waiting.Fits at h ⊢
  split
  · rename_i hp
    simp only [hp] at h
    obtain ⟨tx, htx, ht, hnone⟩ := h
    exact keeps tx htx ht hnone
  · rename_i hp
    simp only [hp] at h
    intro tx' htx' ht
    obtain ⟨tx, htx, ht'⟩ := old tx' htx' ht
    exact h tx htx ht'

namespace Traffic

/-- What holds of a store and the calls that wait there, whatever calls were made before. -/
structure Orderly (s : Store) (ws : List Waiting) : Prop where
  accounts_nodup : (s.tables.accounts.map Account.id).Nodup
  accounts_issued : ∀ a ∈ s.tables.accounts, 0 < a.id ∧ a.id ≤ s.issued.account
  mem_lockable_iff : ∀ id, id ∈ s.lockable ↔ ∃ a ∈ s.tables.accounts, a.id = id
  transactions_nodup : (s.transactions.map Transaction.ticket).Nodup
  transactions_issued : ∀ tx ∈ s.transactions, tx.ticket ≤ s.issued.ticket
  requests_nodup : s.requests.Nodup
  requests_issued : ∀ r ∈ s.requests, r.ticket ≤ s.issued.ticket ∧ r.account ≤ s.issued.account
  rows_nodup : ∀ tx ∈ s.transactions, (tx.rows.map Account.id).Nodup
  rows_locked : ∀ tx ∈ s.transactions, ∀ row ∈ tx.rows,
    s.Holds ⟨tx.ticket, row.id⟩ ∧ ∃ a ∈ s.tables.accounts, row.Agrees a
  waiting_nodup : (ws.map fun w => w.request.ticket).Nodup
  waiting_queued : ∀ w ∈ ws, w.request ∈ s.requests
  waiting_fits : ∀ w ∈ ws, Waiting.Fits w s.transactions
  requests_owned : ∀ r ∈ s.requests,
    (∃ tx ∈ s.transactions, tx.ticket = r.ticket ∧ ∃ row ∈ tx.rows, row.id = r.account) ∨
      ∃ w ∈ ws, w.request = r

theorem orderly_empty : Orderly .empty [] := by
  constructor <;> simp [Store.empty]

theorem mem_middle_iff {α : Type} {a b : α} {before after : List α} :
    a ∈ before ++ b :: after ↔ a = b ∨ a ∈ before ++ after :=
  List.perm_middle.mem_iff.trans List.mem_cons

theorem tickets_nodup_middle {w : Waiting} {before after : List Waiting} :
    ((before ++ w :: after).map fun v => v.request.ticket).Nodup ↔
    Free w.request.ticket (before ++ after) ∧
    ((before ++ after).map fun v => v.request.ticket).Nodup := by
  have hperm : (before ++ w :: after).Perm (w :: (before ++ after)) := List.perm_middle
  rw [(hperm.map fun v => v.request.ticket).nodup_iff, List.map_cons, List.nodup_cons]
  apply and_congr_left
  intro _
  constructor
  · intro hnot v hv ht
    exact hnot (List.mem_map.mpr ⟨v, hv, ht⟩)
  · intro free hmem
    obtain ⟨v, hv, ht⟩ := List.mem_map.mp hmem
    exact free v hv ht

namespace Orderly

variable {s s' : Store} {ws before after : List Waiting} (o : Orderly s ws)
include o

theorem eq_of_ticket {tx tx' : Transaction} (htx : tx ∈ s.transactions)
    (htx' : tx' ∈ s.transactions) (h : tx.ticket = tx'.ticket) : tx = tx' :=
  List.inj_on_of_nodup_map o.transactions_nodup htx htx' h

theorem transaction?_eq_some {tx : Transaction} (htx : tx ∈ s.transactions) :
    s.transaction? tx.ticket = some tx :=
  find?_key_of_mem Transaction.ticket o.transactions_nodup htx

theorem eq_of_account_id {a b : Account} (ha : a ∈ s.tables.accounts) (hb : b ∈ s.tables.accounts)
    (h : a.id = b.id) : a = b :=
  List.inj_on_of_nodup_map o.accounts_nodup ha hb h

theorem account?_eq_some {a : Account} (ha : a ∈ s.tables.accounts) :
    s.tables.account? a.id = some a :=
  find?_key_of_mem Account.id o.accounts_nodup ha

theorem row?_eq_some {tx : Transaction} {row : Account} (htx : tx ∈ s.transactions)
    (hrow : row ∈ tx.rows) : tx.row? row.id = some row :=
  find?_key_of_mem Account.id (o.rows_nodup tx htx) hrow

theorem eq_of_locked {tx tx' : Transaction} {row row' : Account} (htx : tx ∈ s.transactions)
    (htx' : tx' ∈ s.transactions) (hrow : row ∈ tx.rows) (hrow' : row' ∈ tx'.rows)
    (h : row.id = row'.id) : tx = tx' := by
  have hq := (o.rows_locked tx htx row hrow).1
  have hr := (o.rows_locked tx' htx' row' hrow').1
  exact o.eq_of_ticket htx htx' (congrArg LockRequest.ticket (hq.unique hr h))

theorem exists_unlocked {r : LockRequest} {amount : Amount}
    (hw : (⟨r, .add amount⟩ : Waiting) ∈ ws) :
    ∃ tx ∈ s.transactions, tx.ticket = r.ticket ∧ tx.row? r.account = none :=
  o.waiting_fits _ hw

theorem ticket_ne_of_delete {w : Waiting} (hw : w ∈ ws) (hdelete : w.purpose = .delete)
    {tx : Transaction} (htx : tx ∈ s.transactions) : tx.ticket ≠ w.request.ticket := by
  have hfits := o.waiting_fits w hw
  unfold Waiting.Fits at hfits
  rw [hdelete] at hfits
  exact hfits tx htx

theorem not_locked_of_holds {w : Waiting} (hw : w ∈ ws) (holds : s.Holds w.request)
    {tx : Transaction} (htx : tx ∈ s.transactions) :
    ∀ row ∈ tx.rows, row.id ≠ w.request.account := by
  intro row hrow hid
  have heq := ((o.rows_locked tx htx row hrow).1.unique holds hid)
  have hticket : tx.ticket = w.request.ticket := congrArg LockRequest.ticket heq
  obtain ⟨r, purpose⟩ := w
  cases purpose with
  | add amount =>
    obtain ⟨tx', htx', ht', hnone⟩ := o.exists_unlocked hw
    have := o.eq_of_ticket htx htx' (hticket.trans ht'.symm)
    subst this
    exact Transaction.row?_eq_none_iff.mp hnone row hrow hid
  | delete => exact o.ticket_ne_of_delete hw rfl htx hticket

/-! ### What keeps the invariant -/

theorem of_accounts (haccounts : s'.tables.accounts = s.tables.accounts)
    (hissued : s'.issued = s.issued) (hlockable : s'.lockable = s.lockable)
    (hrequests : s'.requests = s.requests) (htransactions : s'.transactions = s.transactions) :
    Orderly s' ws := by
  obtain ⟨tables, issued, lockable, requests, transactions⟩ := s'
  simp only at haccounts hissued hlockable hrequests htransactions
  subst hissued hlockable hrequests htransactions
  constructor
  · rw [haccounts]; exact o.accounts_nodup
  · rw [haccounts]; exact o.accounts_issued
  · rw [haccounts]; exact o.mem_lockable_iff
  · exact o.transactions_nodup
  · exact o.transactions_issued
  · exact o.requests_nodup
  · exact o.requests_issued
  · exact o.rows_nodup
  · rw [haccounts]; exact o.rows_locked
  · exact o.waiting_nodup
  · exact o.waiting_queued
  · exact o.waiting_fits
  · exact o.requests_owned

theorem createAccount {new : NewAccount} {now : Timestamp} {a : Account}
    (h : s.createAccount new now = .ok (a, s')) : Orderly s' ws := by
  obtain ⟨_, _, ha, rfl⟩ := Store.createAccount_eq_ok_iff.mp h
  have hid : a.id = s.issued.account + 1 := by rw [ha]
  exact { o with
    accounts_nodup := by
      simp only [List.map_append, List.map_cons, List.map_nil]
      refine List.nodup_append.mpr ⟨o.accounts_nodup, List.nodup_singleton _, ?_⟩
      intro n hn m hm
      obtain ⟨b, hb, rfl⟩ := List.mem_map.mp hn
      have := (o.accounts_issued b hb).2
      rw [List.mem_singleton.mp hm, hid]
      omega
    accounts_issued := by
      intro b hb
      simp only [List.mem_append, List.mem_singleton] at hb
      rcases hb with hb | rfl
      · have := o.accounts_issued b hb
        simp only
        omega
      · simp only [hid]
        omega
    mem_lockable_iff := by
      intro id
      simp only [List.mem_cons, o.mem_lockable_iff id, List.mem_append, List.not_mem_nil, or_false]
      constructor
      · rintro (rfl | ⟨b, hb, hb'⟩)
        · exact ⟨a, Or.inr rfl, rfl⟩
        · exact ⟨b, Or.inl hb, hb'⟩
      · rintro ⟨b, hb | rfl, hb'⟩
        · exact Or.inr ⟨b, hb, hb'⟩
        · exact Or.inl hb'.symm
    requests_issued := by
      intro r hr
      have := o.requests_issued r hr
      simp only
      omega
    rows_locked := by
      intro tx htx row hrow
      obtain ⟨holds, b, hb, hagrees⟩ := o.rows_locked tx htx row hrow
      exact ⟨holds, b, List.mem_append_left _ hb, hagrees⟩ }

theorem draw : Orderly s.draw.2 ws :=
  { o with
    transactions_issued := fun tx htx => Nat.le_succ_of_le (o.transactions_issued tx htx)
    requests_issued :=
      fun r hr => ⟨Nat.le_succ_of_le (o.requests_issued r hr).1, (o.requests_issued r hr).2⟩ }

theorem begin : Orderly s.begin.2 ws :=
  { o.draw with
    transactions_nodup := by
      simp only [Store.begin, Store.draw, List.map_append, List.map_cons, List.map_nil]
      refine List.nodup_append.mpr ⟨o.transactions_nodup, List.nodup_singleton _, ?_⟩
      intro n hn m hm
      obtain ⟨tx, htx, rfl⟩ := List.mem_map.mp hn
      have := o.transactions_issued tx htx
      rw [List.mem_singleton.mp hm]
      omega
    transactions_issued := by
      intro tx htx
      rcases List.mem_append.mp htx with htx | htx
      · exact o.draw.transactions_issued tx htx
      · rw [List.mem_singleton.mp htx]
        exact Nat.le_refl _
    rows_nodup := by
      intro tx htx
      rcases List.mem_append.mp htx with htx | htx
      · exact o.rows_nodup tx htx
      · rw [List.mem_singleton.mp htx]
        exact List.nodup_nil
    rows_locked := by
      intro tx htx row hrow
      rcases List.mem_append.mp htx with htx | htx
      · exact o.rows_locked tx htx row hrow
      · rw [List.mem_singleton.mp htx] at hrow
        cases hrow
    waiting_fits := by
      intro w hw
      have hissued := (o.requests_issued _ (o.waiting_queued w hw)).1
      apply (o.waiting_fits w hw).mono
        (fun tx htx ht hnone => ⟨tx, List.mem_append_left _ htx, ht, hnone⟩)
      intro tx htx ht
      rcases List.mem_append.mp htx with htx | htx
      · exact ⟨tx, htx, ht⟩
      · rw [List.mem_singleton.mp htx] at ht
        simp only at ht
        omega
    requests_owned := by
      intro r hr
      rcases o.requests_owned r hr with ⟨tx, htx, h⟩ | h
      · exact Or.inl ⟨tx, List.mem_append_left _ htx, h⟩
      · exact Or.inr h }

/-- Transactions that stage more, or change the balances of the rows that they have locked. -/
theorem revise {g : Transaction → Transaction} (haccounts : s'.tables.accounts = s.tables.accounts)
    (haccount : s'.issued.account = s.issued.account) (hticket : s'.issued.ticket = s.issued.ticket)
    (hlockable : s'.lockable = s.lockable) (hrequests : s'.requests = s.requests)
    (htransactions : s'.transactions = s.transactions.map g)
    (ticket_g : ∀ tx, (g tx).ticket = tx.ticket)
    (rows_g : ∀ tx, (g tx).rows.map Account.id = tx.rows.map Account.id)
    (agrees_g : ∀ tx, ∀ row ∈ (g tx).rows, ∃ old ∈ tx.rows,
      old.id = row.id ∧ ∀ a, old.Agrees a → row.Agrees a) : Orderly s' ws := by
  have mem_g : ∀ tx' ∈ s'.transactions, ∃ tx ∈ s.transactions, g tx = tx' := by
    intro tx' htx'
    rw [htransactions] at htx'
    exact List.mem_map.mp htx'
  have g_mem : ∀ tx ∈ s.transactions, g tx ∈ s'.transactions := by
    intro tx htx
    rw [htransactions]
    exact List.mem_map_of_mem htx
  have holds_iff : ∀ r, s'.Holds r ↔ s.Holds r := by
    intro r
    rw [Store.holds_iff, Store.holds_iff, hrequests]
  have row_g : ∀ (tx : Transaction) (id : Int), (∃ row ∈ (g tx).rows, row.id = id) ↔
      ∃ row ∈ tx.rows, row.id = id := by
    intro tx id
    rw [← List.mem_map, ← List.mem_map, rows_g tx]
  exact {
    accounts_nodup := by rw [haccounts]; exact o.accounts_nodup
    accounts_issued := by rw [haccounts, haccount]; exact o.accounts_issued
    mem_lockable_iff := by rw [haccounts, hlockable]; exact o.mem_lockable_iff
    transactions_nodup := by
      have : (s.transactions.map g).map Transaction.ticket =
          s.transactions.map Transaction.ticket := by
        simp only [List.map_map]
        exact List.map_congr_left fun tx _ => ticket_g tx
      rw [htransactions, this]
      exact o.transactions_nodup
    transactions_issued := by
      intro tx' htx'
      obtain ⟨tx, htx, rfl⟩ := mem_g tx' htx'
      rw [ticket_g, hticket]
      exact o.transactions_issued tx htx
    requests_nodup := by rw [hrequests]; exact o.requests_nodup
    requests_issued := by rw [hrequests, haccount, hticket]; exact o.requests_issued
    rows_nodup := by
      intro tx' htx'
      obtain ⟨tx, htx, rfl⟩ := mem_g tx' htx'
      rw [rows_g]
      exact o.rows_nodup tx htx
    rows_locked := by
      intro tx' htx' row hrow
      obtain ⟨tx, htx, rfl⟩ := mem_g tx' htx'
      obtain ⟨old, hold, hid, hagrees⟩ := agrees_g tx row hrow
      obtain ⟨holds, a, ha, h⟩ := o.rows_locked tx htx old hold
      rw [holds_iff, ticket_g, ← hid, haccounts]
      exact ⟨holds, a, ha, hagrees a h⟩
    waiting_nodup := o.waiting_nodup
    waiting_queued := by rw [hrequests]; exact o.waiting_queued
    waiting_fits := by
      intro w hw
      apply (o.waiting_fits w hw).mono
      · intro tx htx ht hnone
        refine ⟨g tx, g_mem tx htx, (ticket_g tx).trans ht,
          Transaction.row?_eq_none_iff.mpr fun row hrow hid => ?_⟩
        obtain ⟨old, hold, hid'⟩ := (row_g tx _).mp ⟨row, hrow, hid⟩
        exact Transaction.row?_eq_none_iff.mp hnone old hold hid'
      · intro tx' htx' ht
        obtain ⟨tx, htx, rfl⟩ := mem_g tx' htx'
        exact ⟨tx, htx, (ticket_g tx).symm.trans ht⟩
    requests_owned := by
      intro r hr
      rw [hrequests] at hr
      rcases o.requests_owned r hr with ⟨tx, htx, ht, hrow⟩ | h
      · exact Or.inl ⟨g tx, g_mem tx htx, (ticket_g tx).trans ht, (row_g tx _).mpr hrow⟩
      · exact Or.inr h }

theorem stage {t : Nat} {f : Transaction → Transaction} (haccounts : s'.tables = s.tables)
    (haccount : s'.issued.account = s.issued.account) (hticket : s'.issued.ticket = s.issued.ticket)
    (hlockable : s'.lockable = s.lockable) (hrequests : s'.requests = s.requests)
    (htransactions :
      s'.transactions = s.transactions.map fun tx => if tx.ticket = t then f tx else tx)
    (ticket_f : ∀ tx, (f tx).ticket = tx.ticket) (rows_f : ∀ tx, (f tx).rows = tx.rows) :
    Orderly s' ws := by
  have rows_g : ∀ tx : Transaction, (if tx.ticket = t then f tx else tx).rows = tx.rows := by
    intro tx
    split
    · exact rows_f tx
    · rfl
  apply o.revise (by rw [haccounts]) haccount hticket hlockable hrequests htransactions
  · intro tx
    split
    · exact ticket_f tx
    · rfl
  · intro tx
    rw [rows_g]
  · intro tx row hrow
    rw [rows_g] at hrow
    exact ⟨row, hrow, rfl, fun _ h => h⟩

theorem addStaged {t : Nat} {row a : Account} {amount : Amount}
    (h : s.addStaged t row amount = .ok (a, s')) : Orderly s' ws := by
  obtain ⟨balance, _, _, rfl⟩ := Store.addStaged_eq_ok_iff.mp h
  refine o.revise rfl rfl rfl rfl rfl rfl ?_ ?_ ?_
  · intro tx
    split <;> rfl
  · intro tx
    split
    · simp [Function.comp_def]
    · rfl
  · intro tx r hr
    split at hr
    · obtain ⟨old, hold, rfl⟩ := List.mem_map.mp hr
      refine ⟨old, hold, (Transaction.id_setBalance _ _ _).symm, ?_⟩
      exact fun _ => Transaction.agrees_setBalance
    · exact ⟨r, hr, rfl, fun _ h => h⟩

omit o in
theorem enqueue {w : Waiting} (o : Orderly s (before ++ after)) (hfresh : w.request ∉ s.requests)
    (hissued : w.request.ticket ≤ s.issued.ticket ∧ w.request.account ≤ s.issued.account)
    (free : Free w.request.ticket (before ++ after)) (fits : w.Fits s.transactions) :
    Orderly (s.enqueue w.request) (before ++ w :: after) := by
  exact { o with
    requests_nodup := by
      rw [Store.enqueue_requests]
      exact List.nodup_append.mpr ⟨o.requests_nodup, List.nodup_singleton _, by
        rintro r hr q hq rfl
        exact hfresh (List.mem_singleton.mp hq ▸ hr)⟩
    requests_issued := by
      intro r hr
      rcases List.mem_append.mp hr with hr | hr
      · exact o.requests_issued r hr
      · rw [List.mem_singleton.mp hr]
        exact hissued
    rows_locked := fun tx htx row hrow =>
      ⟨(o.rows_locked tx htx row hrow).1.enqueue, (o.rows_locked tx htx row hrow).2⟩
    waiting_nodup := tickets_nodup_middle.mpr ⟨free, o.waiting_nodup⟩
    waiting_queued := by
      intro v hv
      rw [Store.enqueue_requests]
      rcases mem_middle_iff.mp hv with rfl | hv
      · exact List.mem_append_right _ (List.mem_singleton_self _)
      · exact List.mem_append_left _ (o.waiting_queued v hv)
    waiting_fits := by
      intro v hv
      rcases mem_middle_iff.mp hv with rfl | hv
      · exact fits
      · exact o.waiting_fits v hv
    requests_owned := by
      intro r hr
      rcases List.mem_append.mp hr with hr | hr
      · rcases o.requests_owned r hr with h | ⟨v, hv, h⟩
        · exact Or.inl h
        · exact Or.inr ⟨v, mem_middle_iff.mpr (Or.inr hv), h⟩
      · exact Or.inr ⟨w, mem_middle_iff.mpr (Or.inl rfl), (List.mem_singleton.mp hr).symm⟩ }

omit o in
theorem withdraw {w : Waiting} (o : Orderly s (before ++ w :: after)) :
    Orderly (s.withdraw w.request) (before ++ after) := by
  have hw : w ∈ before ++ w :: after := List.mem_append_cons_self
  obtain ⟨free, rest_nodup⟩ := tickets_nodup_middle.mp o.waiting_nodup
  have not_mine : ∀ tx ∈ s.transactions, ∀ row ∈ tx.rows,
      (⟨tx.ticket, row.id⟩ : LockRequest) ≠ w.request := by
    intro tx htx row hrow heq
    have holds := (o.rows_locked tx htx row hrow).1
    rw [heq] at holds
    exact o.not_locked_of_holds hw holds htx row hrow (congrArg LockRequest.account heq)
  exact { o with
    requests_nodup := o.requests_nodup.erase _
    requests_issued := fun r hr => o.requests_issued r (List.mem_of_mem_erase hr)
    rows_locked := fun tx htx row hrow =>
      ⟨(o.rows_locked tx htx row hrow).1.withdraw o.requests_nodup (not_mine tx htx row hrow),
        (o.rows_locked tx htx row hrow).2⟩
    waiting_nodup := rest_nodup
    waiting_queued := by
      intro v hv
      have hne : v.request ≠ w.request := fun h => free v hv (congrArg LockRequest.ticket h)
      exact (List.mem_erase_of_ne hne).mpr (o.waiting_queued v (mem_middle_iff.mpr (Or.inr hv)))
    waiting_fits := fun v hv => o.waiting_fits v (mem_middle_iff.mpr (Or.inr hv))
    requests_owned := by
      intro r hr
      have hne : r ≠ w.request := fun h => o.requests_nodup.not_mem_erase (h ▸ hr)
      rcases o.requests_owned r (List.mem_of_mem_erase hr) with h | ⟨v, hv, h⟩
      · exact Or.inl h
      · have hvw : v ≠ w := fun heq => hne (h.symm.trans (congrArg Waiting.request heq))
        exact Or.inr ⟨v, (mem_middle_iff.mp hv).resolve_left hvw, h⟩ }

omit o in
theorem copyRow {r : LockRequest} {amount : Amount} {row : Account}
    (o : Orderly s (before ++ ⟨r, .add amount⟩ :: after)) (holds : s.Holds r)
    (hrow : s.tables.account? r.account = some row) :
    Orderly (s.copyRow r.ticket row) (before ++ after) := by
  obtain ⟨hrow, hid⟩ := Tables.mem_of_account? hrow
  have hw : (⟨r, .add amount⟩ : Waiting) ∈ before ++ ⟨r, .add amount⟩ :: after :=
    List.mem_append_cons_self
  obtain ⟨free, rest_nodup⟩ := tickets_nodup_middle.mp o.waiting_nodup
  obtain ⟨mine, hmine, ht, _⟩ := o.exists_unlocked hw
  have keeps : ∀ tx ∈ s.transactions, tx.ticket ≠ r.ticket →
      tx ∈ (s.copyRow r.ticket row).transactions :=
    fun tx htx hne => Store.mem_update.mpr (Or.inr ⟨htx, hne⟩)
  have extends_mine :
      { mine with rows := mine.rows ++ [row] } ∈ (s.copyRow r.ticket row).transactions :=
    Store.mem_update.mpr (Or.inl ⟨mine, hmine, ht, rfl⟩)
  exact { o with
    transactions_nodup := by
      have : (s.copyRow r.ticket row).transactions.map Transaction.ticket =
          s.transactions.map Transaction.ticket := by
        simp only [Store.copyRow, Store.update_transactions, List.map_map]
        apply List.map_congr_left
        intro tx _
        simp only [Function.comp_apply]
        split <;> rfl
      rw [this]
      exact o.transactions_nodup
    transactions_issued := by
      intro tx htx
      rcases Store.mem_update.mp htx with ⟨old, hold, _, rfl⟩ | ⟨htx, _⟩
      · exact o.transactions_issued old hold
      · exact o.transactions_issued tx htx
    rows_nodup := by
      intro tx htx
      rcases Store.mem_update.mp htx with ⟨old, hold, _, rfl⟩ | ⟨htx, _⟩
      · simp only [List.map_append, List.map_cons, List.map_nil]
        refine List.nodup_append.mpr ⟨o.rows_nodup old hold, List.nodup_singleton _, ?_⟩
        intro n hn m hm
        obtain ⟨b, hb, rfl⟩ := List.mem_map.mp hn
        rw [List.mem_singleton.mp hm, hid]
        exact o.not_locked_of_holds hw holds hold b hb
      · exact o.rows_nodup tx htx
    rows_locked := by
      intro tx htx b hb
      rcases Store.mem_update.mp htx with ⟨old, hold, hot, rfl⟩ | ⟨htx, _⟩
      · rcases List.mem_append.mp hb with hb | hb
        · exact o.rows_locked old hold b hb
        · rw [List.mem_singleton.mp hb]
          refine ⟨?_, row, hrow, Account.agrees_refl row⟩
          simp only [hot, hid]
          exact holds
      · exact o.rows_locked tx htx b hb
    waiting_nodup := rest_nodup
    waiting_queued := fun v hv => o.waiting_queued v (mem_middle_iff.mpr (Or.inr hv))
    waiting_fits := by
      intro v hv
      have hne : v.request.ticket ≠ r.ticket := free v hv
      apply (o.waiting_fits v (mem_middle_iff.mpr (Or.inr hv))).mono
      · intro tx htx hvt hnone
        exact ⟨tx, keeps tx htx (hvt.trans_ne hne), hvt, hnone⟩
      · intro tx htx hvt
        rcases Store.mem_update.mp htx with ⟨old, hold, hot, rfl⟩ | ⟨htx, _⟩
        · exact ⟨old, hold, hvt⟩
        · exact ⟨tx, htx, hvt⟩
    requests_owned := by
      intro q hq
      by_cases hqr : q = r
      · subst hqr
        exact Or.inl ⟨_, extends_mine, ht, row, List.mem_append_right _ (List.mem_singleton_self _),
          hid⟩
      rcases o.requests_owned q hq with ⟨tx, htx, hqt, b, hb, hbid⟩ | ⟨v, hv, h⟩
      · by_cases htr : tx.ticket = r.ticket
        · have := o.eq_of_ticket htx hmine (htr.trans ht.symm)
          subst this
          exact Or.inl ⟨_, extends_mine, hqt, b, List.mem_append_left _ hb, hbid⟩
        · exact Or.inl ⟨tx, keeps tx htx htr, hqt, b, hb, hbid⟩
      · have hvr : v ≠ ⟨r, .add amount⟩ :=
          fun heq => hqr (h.symm.trans (congrArg Waiting.request heq))
        exact Or.inr ⟨v, (mem_middle_iff.mp hv).resolve_left hvr, h⟩ }

theorem removeAccount {id : Int} (hlocked : ∀ tx ∈ s.transactions, ∀ row ∈ tx.rows, row.id ≠ id) :
    Orderly { s with
      tables.accounts := s.tables.accounts.filter fun a => a.id ≠ id
      lockable := s.lockable.filter (· ≠ id) } ws := by
  have mem_iff : ∀ a, a ∈ s.tables.accounts.filter (fun a => a.id ≠ id) ↔
      a ∈ s.tables.accounts ∧ a.id ≠ id := by
    simp
  exact { o with
    accounts_nodup := List.Nodup.sublist (List.Sublist.map _ List.filter_sublist) o.accounts_nodup
    accounts_issued := fun a ha => o.accounts_issued a ((mem_iff a).mp ha).1
    mem_lockable_iff := by
      intro n
      simp only [List.mem_filter, o.mem_lockable_iff n, decide_eq_true_eq, ne_eq]
      constructor
      · rintro ⟨⟨a, ha, rfl⟩, hne⟩
        exact ⟨a, ⟨ha, hne⟩, rfl⟩
      · rintro ⟨a, ⟨ha, hne⟩, rfl⟩
        exact ⟨⟨a, ha, rfl⟩, hne⟩
    rows_locked := by
      intro tx htx row hrow
      obtain ⟨holds, a, ha, h⟩ := o.rows_locked tx htx row hrow
      exact ⟨holds, a, (mem_iff a).mpr ⟨ha, h.id_eq ▸ hlocked tx htx row hrow⟩, h⟩ }

theorem discard {t : Nat} (free : Free t ws) : Orderly (s.discard t) ws := by
  have mem_iff : ∀ tx, tx ∈ (s.discard t).transactions ↔ tx ∈ s.transactions ∧ tx.ticket ≠ t := by
    simp
  have mem_requests : ∀ r, r ∈ (s.discard t).requests ↔ r ∈ s.requests ∧ r.ticket ≠ t := by
    simp
  exact { o with
    transactions_nodup :=
      List.Nodup.sublist (List.Sublist.map _ List.filter_sublist) o.transactions_nodup
    transactions_issued := fun tx htx => o.transactions_issued tx ((mem_iff tx).mp htx).1
    requests_nodup := o.requests_nodup.filter _
    requests_issued := fun r hr => o.requests_issued r ((mem_requests r).mp hr).1
    rows_nodup := fun tx htx => o.rows_nodup tx ((mem_iff tx).mp htx).1
    rows_locked := by
      intro tx htx row hrow
      obtain ⟨htx, hne⟩ := (mem_iff tx).mp htx
      obtain ⟨holds, h⟩ := o.rows_locked tx htx row hrow
      exact ⟨holds.discard hne, h⟩
    waiting_queued := fun w hw => (mem_requests _).mpr ⟨o.waiting_queued w hw, free w hw⟩
    waiting_fits := by
      intro w hw
      apply (o.waiting_fits w hw).mono
      · intro tx htx ht hnone
        exact ⟨tx, (mem_iff tx).mpr ⟨htx, ht.trans_ne (free w hw)⟩, ht, hnone⟩
      · intro tx htx ht
        exact ⟨tx, ((mem_iff tx).mp htx).1, ht⟩
    requests_owned := by
      intro r hr
      obtain ⟨hr, hne⟩ := (mem_requests r).mp hr
      rcases o.requests_owned r hr with ⟨tx, htx, ht, hrow⟩ | h
      · exact Or.inl ⟨tx, (mem_iff tx).mpr ⟨htx, ht.trans_ne hne⟩, ht, hrow⟩
      · exact Or.inr h }

theorem publish (tx : Transaction) : Orderly (s.publish tx) ws := by
  have ids : (s.tables.accounts.map tx.publish).map Account.id =
      s.tables.accounts.map Account.id := by
    rw [List.map_map]
    exact List.map_congr_left fun a _ => Transaction.id_publish tx a
  exact { o with
    accounts_nodup := by
      rw [Store.publish_accounts, ids]
      exact o.accounts_nodup
    accounts_issued := by
      intro a ha
      obtain ⟨b, hb, rfl⟩ := List.mem_map.mp ha
      rw [Transaction.id_publish]
      exact o.accounts_issued b hb
    mem_lockable_iff := by
      intro id
      rw [Store.publish_lockable, o.mem_lockable_iff, ← List.mem_map, ← List.mem_map,
        Store.publish_accounts, ids]
    rows_locked := by
      intro tx' htx' row hrow
      obtain ⟨holds, a, ha, h⟩ := o.rows_locked tx' htx' row hrow
      exact ⟨holds, tx.publish a, List.mem_map_of_mem ha, Transaction.agrees_publish h⟩ }

end Orderly

theorem Effect.orderly {T T' : Traffic} {events : List Event} (h : Effect T events T')
    (o : Orderly T.store T.waiting) : Orderly T'.store T'.waiting := by
  cases h with
  | quiet => exact o
  | createUser h =>
    obtain ⟨_, _, _, rfl⟩ := Store.createUser_eq_ok_iff.mp h
    exact o.of_accounts rfl rfl rfl rfl rfl
  | createSession h =>
    rw [Store.createSession_eq_ok h]
    exact o.of_accounts rfl rfl rfl rfl rfl
  | createAccount h => exact o.createAccount h
  | begin => exact o.begin
  | stageTransfer h =>
    obtain ⟨_, _, _, _, _, rfl⟩ := Store.stageTransfer_eq_ok_iff.mp h
    exact o.stage rfl rfl rfl rfl rfl rfl (fun _ => rfl) (fun _ => rfl)
  | stageEntry h =>
    obtain ⟨_, _, _, rfl⟩ := Store.stageEntry_eq_ok_iff.mp h
    exact o.stage rfl rfl rfl rfl rfl rfl (fun _ => rfl) (fun _ => rfl)
  | addStaged free htx hrow h => exact o.addStaged h
  | @queueAdd s before after t account amount tx free htx hrow hl =>
    obtain ⟨htx, ht⟩ := Store.mem_of_transaction? htx
    obtain ⟨a, ha, hid⟩ := (o.mem_lockable_iff account).mp hl
    refine o.enqueue (w := ⟨⟨t, account⟩, .add amount⟩) ?_ ?_ free ⟨tx, htx, ht, hrow⟩
    · intro hr
      rcases o.requests_owned _ hr with ⟨tx', htx', ht', row, hrow', hid'⟩ | ⟨v, hv, h⟩
      · have := o.eq_of_ticket htx' htx (ht'.trans ht.symm)
        subst this
        exact Transaction.row?_eq_none_iff.mp hrow row hrow' hid'
      · exact free v hv (congrArg LockRequest.ticket h)
    · exact ⟨ht ▸ o.transactions_issued tx htx, hid ▸ (o.accounts_issued a ha).2⟩
  | @queueDelete s before after account hl =>
    obtain ⟨a, ha, hid⟩ := (o.mem_lockable_iff account).mp hl
    refine o.draw.enqueue (w := ⟨⟨s.draw.1, account⟩, .delete⟩) ?_ ?_ ?_ ?_
    · intro hr
      have := (o.requests_issued _ hr).1
      simp only [Store.draw] at this
      omega
    · exact ⟨Nat.le_refl _, hid ▸ (o.accounts_issued a ha).2⟩
    · intro v hv hvt
      have : v.request.ticket ≤ s.issued.ticket := (o.requests_issued _ (o.waiting_queued v hv)).1
      simp only [Store.draw] at hvt
      omega
    · intro tx htx htt
      have : tx.ticket ≤ s.issued.ticket := o.transactions_issued tx htx
      simp only [Store.draw] at htt
      omega
  | grantAdd holds h =>
    rcases Store.addGranted_cases h with ⟨_, rfl, _⟩ | ⟨row, hrow, ⟨a, ha, _⟩ | ⟨rfl, _⟩⟩
    · exact o.withdraw
    · exact (o.copyRow holds hrow).addStaged ha
    · exact o.copyRow holds hrow
  | @grantDelete s s' before after r answer holds h =>
    have hw : (⟨r, .delete⟩ : Waiting) ∈ before ++ ⟨r, .delete⟩ :: after :=
      List.mem_append_cons_self
    rcases Store.deleteGranted_cases h with ⟨rfl, _⟩ | ⟨_, _, _, rfl⟩
    · exact o.withdraw
    · exact o.withdraw.removeAccount fun tx htx => o.not_locked_of_holds hw holds htx
  | cancel => exact o.withdraw
  | discard isOpen free he => exact o.discard free
  | commit free htx => exact (o.publish _).discard free

theorem Run.orderly {history : List Event} {T : Traffic} (run : Run history T) :
    Orderly T.store T.waiting :=
  run.invariant orderly_empty fun o effect => effect.orderly o

theorem Step.orderly {T T' : Traffic} {events : List Event} (h : Step T events T')
    (o : Orderly T.store T.waiting) : Orderly T'.store T'.waiting := by
  rcases h.effects with h | ⟨T₁, h₁, h₂⟩
  · exact h.orderly o
  · exact h₂.orderly (h₁.orderly o)

end Traffic
end Giro
