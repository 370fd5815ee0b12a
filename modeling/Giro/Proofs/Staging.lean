import Giro.Proofs.RowLocks

/-!
# What a transaction sees

A transaction sees the committed accounts with its own rows in their place. An addition that
succeeds answers with a row that it sees, changed by the amount, and from then on sees that row.
While others go on, what it has staged stays, and so do the accounts that it has locked:
`Effect.spares`.
-/

namespace Giro

namespace Account

/-- The row of an account once an amount has been added to it. -/
def Changed (rows : List Account) (id : Int) (amount : Amount) (a : Account) : Prop :=
  ∃ x ∈ rows, x.id = id ∧ a.Agrees x ∧ a.balance.toInt = x.balance.toInt + amount.toInt

variable {rows rows' : List Account} {id : Int} {amount : Amount} {a : Account}

theorem Changed.id_eq (h : Changed rows id amount a) : a.id = id := by
  obtain ⟨x, _, hid, hagrees, _⟩ := h
  exact hagrees.id_eq.trans hid

theorem Changed.mono (h : Changed rows id amount a) (keeps : ∀ x ∈ rows, x.id = id → x ∈ rows') :
    Changed rows' id amount a := by
  obtain ⟨x, hx, hid, h⟩ := h
  exact ⟨x, keeps x hx hid, hid, h⟩

theorem ids_setBalance (n : Int) (balance : Amount) (rows : List Account) :
    (rows.map (Transaction.setBalance n balance)).map Account.id = rows.map Account.id := by
  rw [List.map_map]
  exact List.map_congr_left fun x _ => Transaction.id_setBalance n balance x

end Account

namespace Transaction

variable {tx : Transaction} {a : Account} {id : Int}

def withRow (tx : Transaction) (a : Account) : Transaction :=
  { tx with
    rows := if (tx.row? a.id).isSome then tx.rows.map (setBalance a.id a.balance)
      else tx.rows ++ [a] }

@[simp] theorem withRow_ticket : (tx.withRow a).ticket = tx.ticket := rfl
@[simp] theorem withRow_entries : (tx.withRow a).entries = tx.entries := rfl
@[simp] theorem withRow_transfers : (tx.withRow a).transfers = tx.transfers := rfl

theorem withRow_of_row? {row : Account} (h : tx.row? a.id = some row) :
    tx.withRow a = { tx with rows := tx.rows.map (setBalance a.id a.balance) } := by
  simp [withRow, h]

theorem withRow_of_row?_eq_none (h : tx.row? a.id = none) :
    tx.withRow a = { tx with rows := tx.rows ++ [a] } := by
  simp [withRow, h]

theorem find?_setBalance (n : Int) (balance : Amount) (rows : List Account) :
    Store.Table.find? Account.id id (rows.map (setBalance n balance)) =
      (Store.Table.find? Account.id id rows).map (setBalance n balance) := by
  unfold Store.Table.find?
  rw [List.find?_map]
  congr 2
  funext x
  simp

theorem row?_withRow : (tx.withRow a).row? id =
    if id = a.id then some { (tx.row? id).getD a with balance := a.balance } else tx.row? id := by
  cases h : tx.row? a.id with
  | some row =>
    rw [withRow_of_row? h]
    simp only [row?, find?_setBalance]
    split
    · rename_i hid
      subst hid
      have hrow := (mem_of_row? h).2
      simp only [row?] at h
      simp [h, setBalance, hrow]
    · rename_i hid
      cases hx : Store.Table.find? Account.id id tx.rows with
      | none => rfl
      | some x =>
        have hxid := Store.Table.id_of_find? hx
        simp [setBalance, hxid, hid]
  | none =>
    rw [withRow_of_row?_eq_none h]
    simp only [row?, Store.Table.find?, List.find?_append] at h ⊢
    split
    · rename_i hid
      subst hid
      simp [h]
    · rename_i hid
      have : ¬ (a.id == id) = true := by simpa using fun heq => hid heq.symm
      simp [this]

theorem publish_withRow (x : Account) :
    (tx.withRow a).publish x = setBalance a.id a.balance (tx.publish x) := by
  unfold publish setBalance
  rw [row?_withRow]
  by_cases hid : x.id = a.id
  · cases h : tx.row? x.id <;> simp [hid]
  · cases h : tx.row? x.id <;> simp [hid]

theorem exists_mem_withRow_iff :
    (∃ row ∈ (tx.withRow a).rows, row.id = id) ↔ id = a.id ∨ ∃ row ∈ tx.rows, row.id = id := by
  have ne_none : ∀ tx : Transaction, (∃ row ∈ tx.rows, row.id = id) ↔ tx.row? id ≠ none := by
    intro tx
    rw [Ne, row?_eq_none_iff]
    push Not
    rfl
  rw [ne_none, ne_none, row?_withRow]
  by_cases hid : id = a.id <;> simp [hid]

end Transaction

namespace Store

variable {s s' : Store} {tx : Transaction} {r : LockRequest} {amount : Amount} {a : Account}

theorem addGranted_changed (htx : tx ∈ s.transactions) (ht : tx.ticket = r.ticket)
    (hnone : tx.row? r.account = none) (h : s.addGranted r amount = (s', .ok a)) :
    Account.Changed (s.tables.accounts.map tx.publish) r.account amount a ∧
      tx.withRow a ∈ s'.transactions := by
  rcases addGranted_cases h with ⟨_, _, he⟩ | ⟨row, hrow, ⟨a', ha, he⟩ | ⟨_, e, he⟩⟩
  · cases he
  · cases he
    obtain ⟨balance, hsum, rfl, rfl⟩ := addStaged_eq_ok_iff.mp ha
    obtain ⟨hm, hid⟩ := Tables.mem_of_account? hrow
    have hself : tx.publish row = row := Transaction.publish_eq_self (by rw [hid]; exact hnone)
    refine ⟨⟨row, List.mem_map.mpr ⟨row, hm, hself⟩, hid,
      (Account.agrees_refl row).with_balance balance, hsum⟩, ?_⟩
    have hcopied : { tx with rows := tx.rows ++ [row] } ∈ (s.copyRow r.ticket row).transactions :=
      mem_update.mpr (Or.inl ⟨tx, htx, ht, rfl⟩)
    refine mem_update.mpr (Or.inl ⟨_, hcopied, ht, ?_⟩)
    rw [Transaction.withRow_of_row?_eq_none (by rw [← hnone, ← hid])]
    have hothers : tx.rows.map (Transaction.setBalance row.id balance) = tx.rows := by
      refine (List.map_congr_left fun x hx => ?_).trans (List.map_id _)
      have : x.id ≠ row.id := hid ▸ Transaction.row?_eq_none_iff.mp hnone x hx
      simp [Transaction.setBalance, this]
    simp [hothers, Transaction.setBalance]
  · cases he

end Store

namespace Traffic.Orderly

variable {s s' : Store} {ws : List Waiting} (o : Orderly s ws) {tx : Transaction}
include o

theorem exists_publish_eq {row : Account} (htx : tx ∈ s.transactions) (hrow : row ∈ tx.rows) :
    ∃ x ∈ s.tables.accounts, tx.publish x = row := by
  obtain ⟨_, x, hx, hagrees⟩ := o.rows_locked tx htx row hrow
  refine ⟨x, hx, ?_⟩
  have := o.row?_eq_some htx hrow
  rw [hagrees.id_eq] at this
  simp only [Transaction.publish, this]
  exact hagrees

theorem addStaged_changed {row a : Account} {id : Int} {amount : Amount} (htx : tx ∈ s.transactions)
    (hrow : tx.row? id = some row) (h : s.addStaged tx.ticket row amount = .ok (a, s')) :
    Account.Changed (s.tables.accounts.map tx.publish) id amount a ∧
      tx.withRow a ∈ s'.transactions := by
  obtain ⟨balance, hsum, rfl, rfl⟩ := Store.addStaged_eq_ok_iff.mp h
  obtain ⟨hm, hid⟩ := Transaction.mem_of_row? hrow
  obtain ⟨x, hx, hself⟩ := o.exists_publish_eq htx hm
  refine ⟨⟨row, List.mem_map.mpr ⟨x, hx, hself⟩, hid,
    (Account.agrees_refl row).with_balance balance, hsum⟩, ?_⟩
  have hself' := o.row?_eq_some htx hm
  exact Store.mem_update.mpr (Or.inl ⟨tx, htx, rfl,
    (Transaction.withRow_of_row? (a := { row with balance }) hself').symm⟩)

/-- An addition waits for the row, or it fails, or its transaction sees a changed row. -/
theorem addBalance_changed {id : Int} {amount : Amount} {status : Store.Status Account}
    (htx : tx ∈ s.transactions) (h : s.addBalance tx.ticket id amount = (s', status)) :
    Store.Keeps s s' ∧
    ((status = .waiting ⟨tx.ticket, id⟩ ∧ tx ∈ s'.transactions ∧ tx.row? id = none) ∨
      (∃ e, status = .answered (.error e)) ∨
      ∃ a, status = .answered (.ok a) ∧
        Account.Changed (s.tables.accounts.map tx.publish) id amount a ∧
        tx.withRow a ∈ s'.transactions) := by
  have hfind := o.transaction?_eq_some htx
  have hqueued : Store.Keeps s (s.enqueue ⟨tx.ticket, id⟩) := ⟨rfl, rfl, rfl⟩
  cases Store.addBalance_outcome h with
  | refused e => exact ⟨.refl s, Or.inr (Or.inl ⟨e, rfl⟩)⟩
  | @staged _ _ row a htx' hrow ha =>
    cases hfind.symm.trans htx'
    exact ⟨Store.addStaged_keeps ha, Or.inr (Or.inr ⟨a, rfl, o.addStaged_changed htx hrow ha⟩)⟩
  | @granted _ _ answer htx' hnone hl holds hg =>
    cases hfind.symm.trans htx'
    refine ⟨hqueued.trans (Store.addGranted_keeps hg), ?_⟩
    cases answer with
    | error e => exact Or.inr (Or.inl ⟨e, rfl⟩)
    | ok a =>
      have hgranted := Store.addGranted_changed (s := s.enqueue ⟨tx.ticket, id⟩) htx rfl hnone hg
      exact Or.inr (Or.inr ⟨a, rfl, hgranted⟩)
  | queued htx' hnone hl behind =>
    cases hfind.symm.trans htx'
    exact ⟨hqueued, Or.inl ⟨rfl, htx, hnone⟩⟩

end Traffic.Orderly

/-! ## What others leave alone -/

/-- A transaction stays as it is, and so do the accounts that it has locked. -/
structure Store.Spares (s s' : Store) (tx : Transaction) : Prop where
  mem : tx ∈ s'.transactions
  locked : ∀ a ∈ s.tables.accounts, (∃ row ∈ tx.rows, row.id = a.id) → a ∈ s'.tables.accounts

theorem Store.Spares.refl {s : Store} {tx : Transaction} (htx : tx ∈ s.transactions) :
    s.Spares s tx :=
  ⟨htx, fun _ ha _ => ha⟩

theorem Store.Spares.trans {s s' s'' : Store} {tx : Transaction} (h : s.Spares s' tx)
    (h' : s'.Spares s'' tx) : s.Spares s'' tx :=
  ⟨h'.mem, fun a ha hrow => h'.locked a (h.locked a ha hrow) hrow⟩

namespace Traffic

theorem Effect.spares {T T' : Traffic} {events : List Event} (h : Effect T events T')
    (o : Orderly T.store T.waiting) {tx : Transaction} (htx : tx ∈ T.store.transactions)
    (others : ∀ e ∈ events, e.ticket? ≠ some tx.ticket) : T.store.Spares T'.store tx := by
  have other : ∀ {t : Nat} {e : Event}, e ∈ events → e.ticket? = some t → tx.ticket ≠ t :=
    fun he ht heq => others _ he (ht.trans (congrArg some heq.symm))
  cases h with
  | quiet | queueAdd | queueDelete | cancel => exact ⟨htx, fun a ha _ => ha⟩
  | createUser h =>
    obtain ⟨_, _, _, rfl⟩ := Store.createUser_eq_ok_iff.mp h
    exact ⟨htx, fun a ha _ => ha⟩
  | createSession h =>
    rw [Store.createSession_eq_ok h]
    exact ⟨htx, fun a ha _ => ha⟩
  | createAccount h =>
    obtain ⟨_, _, _, rfl⟩ := Store.createAccount_eq_ok_iff.mp h
    exact ⟨htx, fun a ha _ => List.mem_append_left _ ha⟩
  | begin => exact ⟨List.mem_append_left _ htx, fun a ha _ => ha⟩
  | stageTransfer h =>
    obtain ⟨_, _, _, _, _, rfl⟩ := Store.stageTransfer_eq_ok_iff.mp h
    have hne := other (List.mem_singleton_self _) rfl
    exact ⟨Store.mem_update.mpr (Or.inr ⟨htx, hne⟩), fun a ha _ => ha⟩
  | stageEntry h =>
    obtain ⟨_, _, _, rfl⟩ := Store.stageEntry_eq_ok_iff.mp h
    have hne := other (List.mem_singleton_self _) rfl
    exact ⟨Store.mem_update.mpr (Or.inr ⟨htx, hne⟩), fun a ha _ => ha⟩
  | addStaged free htx' hrow h =>
    obtain ⟨_, _, _, rfl⟩ := Store.addStaged_eq_ok_iff.mp h
    have hne := other (List.mem_singleton_self _) rfl
    exact ⟨Store.mem_update.mpr (Or.inr ⟨htx, hne⟩), fun a ha _ => ha⟩
  | @grantAdd s s' before after r amount answer holds h =>
    have hne : tx.ticket ≠ r.ticket := other (List.mem_singleton_self _) rfl
    rcases Store.addGranted_cases h with ⟨_, rfl, _⟩ | ⟨row, hrow, ⟨a, ha, _⟩ | ⟨rfl, _⟩⟩
    · exact ⟨htx, fun a ha _ => ha⟩
    · obtain ⟨_, _, _, rfl⟩ := Store.addStaged_eq_ok_iff.mp ha
      have hcopied : tx ∈ (s.copyRow r.ticket row).transactions :=
        Store.mem_update.mpr (Or.inr ⟨htx, hne⟩)
      exact ⟨Store.mem_update.mpr (Or.inr ⟨hcopied, hne⟩), fun a ha _ => ha⟩
    · exact ⟨Store.mem_update.mpr (Or.inr ⟨htx, hne⟩), fun a ha _ => ha⟩
  | @grantDelete s s' before after r answer holds h =>
    have hw : (⟨r, .delete⟩ : Waiting) ∈ before ++ ⟨r, .delete⟩ :: after :=
      List.mem_append_cons_self
    rcases Store.deleteGranted_cases h with ⟨rfl, _⟩ | ⟨_, _, _, rfl⟩
    · exact ⟨htx, fun a ha _ => ha⟩
    · refine ⟨htx, fun a ha hlocked => List.mem_filter.mpr ⟨ha, ?_⟩⟩
      obtain ⟨row, hrow, hid⟩ := hlocked
      simpa only [ne_eq, decide_not, Bool.not_eq_true', decide_eq_false_iff_not, hid]
        using o.not_locked_of_holds hw holds htx row hrow
  | discard isOpen free he =>
    have hne := other (List.mem_singleton_self _) (by rcases he with rfl | rfl <;> rfl)
    exact ⟨List.mem_filter.mpr ⟨htx, by simpa using hne⟩, fun a ha _ => ha⟩
  | @commit s ws t tx₀ free htx₀ =>
    have hne : tx.ticket ≠ t := other (List.mem_singleton_self _) rfl
    obtain ⟨htx₀, ht⟩ := Store.mem_of_transaction? htx₀
    refine ⟨List.mem_filter.mpr ⟨htx, by simpa using hne⟩, fun a ha hlocked => ?_⟩
    obtain ⟨row, hrow, hid⟩ := hlocked
    have hnone : tx₀.row? a.id = none := by
      refine Transaction.row?_eq_none_iff.mpr fun row₀ hrow₀ hid₀ => hne ?_
      rw [o.eq_of_locked htx htx₀ hrow hrow₀ (hid.trans hid₀.symm), ht]
    exact List.mem_map.mpr ⟨a, ha, Transaction.publish_eq_self hnone⟩

theorem Step.spares {T T' : Traffic} {events : List Event} (h : Step T events T')
    (o : Orderly T.store T.waiting) {tx : Transaction} (htx : tx ∈ T.store.transactions)
    (others : ∀ e ∈ events, e.ticket? ≠ some tx.ticket) : T.store.Spares T'.store tx := by
  rcases h.effects with h | ⟨T₁, h₁, h₂⟩
  · exact h.spares o htx others
  · have spares₁ := h₁.spares o htx fun e he => absurd he List.not_mem_nil
    exact spares₁.trans (h₂.spares (h₁.orderly o) spares₁.mem others)

end Traffic
end Giro
