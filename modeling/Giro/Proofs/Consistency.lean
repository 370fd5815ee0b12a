import Mathlib.Data.List.Flatten
import Mathlib.Data.List.Perm.Subperm
import Giro.Proofs.RowLocks

/-!
# A consistent store

What holds of a store after any run, table by table. A row is found under its key and under no
other, addresses and currencies are not shared, and whoever a row names as its user is one. Rows
that are committed or staged anywhere have numbers that differ, and a locked row agrees with its
account. The locks themselves are the matter of `Traffic.Orderly`; here are the keys and the
numbers, each with its own invariant, and `Run.consistent` puts the three together.
-/

namespace Giro

open scoped List

/-- Rows with different numbers, all of which have been given out. -/
structure Numbered {ρ : Type} (id : ρ → Int) (rows : List ρ) (last : Nat) : Prop where
  nodup : (rows.map id).Nodup
  issued : ∀ row ∈ rows, 0 < id row ∧ id row ≤ last

namespace Numbered

variable {ρ : Type} {id : ρ → Int} {rows rows' : List ρ} {last : Nat}

theorem of_subperm (h : Numbered id rows last) (sub : rows' <+~ rows) : Numbered id rows' last where
  nodup := by
    obtain ⟨l, perm, sublist⟩ := sub
    exact (perm.map id).nodup_iff.mp (h.nodup.sublist (sublist.map id))
  issued row hrow := h.issued row (sub.subset hrow)

/-- The next number is new. -/
theorem next {row : ρ} (h : Numbered id rows last) (hid : id row = last + 1)
    (perm : rows' ~ row :: rows) : Numbered id rows' (last + 1) where
  nodup := by
    rw [(perm.map id).nodup_iff, List.map_cons, List.nodup_cons]
    refine ⟨fun hmem => ?_, h.nodup⟩
    obtain ⟨r, hr, heq⟩ := List.mem_map.mp hmem
    have := (h.issued r hr).2
    omega
  issued r hr := by
    rcases List.mem_cons.mp (perm.mem_iff.mp hr) with rfl | hr
    · omega
    · have := h.issued r hr
      omega

end Numbered

theorem nodup_map_concat {κ ρ : Type} {key : ρ → κ} {rows : List ρ} {row : ρ}
    (nodup : (rows.map key).Nodup) (fresh : ∀ r ∈ rows, key r ≠ key row) :
    ((rows ++ [row]).map key).Nodup := by
  rw [List.map_append]
  refine List.nodup_append.mpr ⟨nodup, List.nodup_singleton _, ?_⟩
  intro k hk k' hk'
  obtain ⟨r, hr, rfl⟩ := List.mem_map.mp hk
  rw [List.mem_singleton.mp hk']
  exact fresh r hr

/-! ## Keys -/

namespace Tables

/-- Keys that have to differ do, and users that are named exist. -/
structure Keyed (t : Tables) : Prop where
  usernames : (t.users.map User.username).Nodup
  emails : (t.users.map User.email).Nodup
  sessions : (t.sessions.map Session.id).Nodup
  currencies : (t.accounts.map fun a => (a.owner, a.currency)).Nodup
  owners : ∀ a ∈ t.accounts, ∃ u ∈ t.users, u.username = a.owner
  logins : ∀ x ∈ t.sessions, ∃ u ∈ t.users, u.username = x.username

theorem user?_eq_none_iff {t : Tables} {username : String} :
    t.user? username = none ↔ ∀ u ∈ t.users, u.username ≠ username := by
  simp [user?]

theorem isSome_user?_iff {t : Tables} {username : String} :
    (t.user? username).isSome ↔ ∃ u ∈ t.users, u.username = username := by
  simp [user?]

theorem isSome_account?_iff {t : Tables} {id : Int} :
    (t.account? id).isSome ↔ ∃ a ∈ t.accounts, a.id = id := by
  simp [account?, Store.Table.find?]

theorem session?_eq_none_iff {t : Tables} {id : Uuid} :
    t.session? id = none ↔ ∀ x ∈ t.sessions, x.id ≠ id := by
  simp [session?]

namespace Keyed

variable {t : Tables} (k : Keyed t)
include k

theorem concat_user {u : User} (fresh : t.user? u.username = none)
    (email : ¬ ∃ v ∈ t.users, v.email = u.email) : Keyed { t with users := t.users ++ [u] } :=
  { k with
    usernames := nodup_map_concat k.usernames (user?_eq_none_iff.mp fresh)
    emails := nodup_map_concat k.emails fun v hv heq => email ⟨v, hv, heq⟩
    owners := fun a ha => (k.owners a ha).imp fun _ hu => ⟨List.mem_append_left _ hu.1, hu.2⟩
    logins := fun x hx => (k.logins x hx).imp fun _ hu => ⟨List.mem_append_left _ hu.1, hu.2⟩ }

theorem concat_session {x : Session} (fresh : t.session? x.id = none)
    (user : (t.user? x.username).isSome) : Keyed { t with sessions := t.sessions ++ [x] } :=
  { k with
    sessions := nodup_map_concat k.sessions (session?_eq_none_iff.mp fresh)
    logins := by
      intro y hy
      rcases List.mem_append.mp hy with hy | hy
      · exact k.logins y hy
      · rw [List.mem_singleton.mp hy]
        exact isSome_user?_iff.mp user }

theorem concat_account {a : Account} (user : (t.user? a.owner).isSome)
    (fresh : ¬ ∃ b ∈ t.accounts, b.owner = a.owner ∧ b.currency = a.currency) :
    Keyed { t with accounts := t.accounts ++ [a] } :=
  { k with
    currencies := nodup_map_concat k.currencies fun b hb heq =>
      fresh ⟨b, hb, congrArg Prod.fst heq, congrArg Prod.snd heq⟩
    owners := by
      intro b hb
      rcases List.mem_append.mp hb with hb | hb
      · exact k.owners b hb
      · rw [List.mem_singleton.mp hb]
        exact isSome_user?_iff.mp user }

theorem filter_accounts (p : Account → Bool) :
    Keyed { t with accounts := t.accounts.filter p } :=
  { k with
    currencies := k.currencies.sublist (List.filter_sublist.map _)
    owners := fun a ha => k.owners a (List.mem_of_mem_filter ha) }

end Keyed

theorem Keyed.publish {s : Store} (k : Keyed s.tables) (tx : Transaction) :
    Keyed (s.publish tx).tables := by
  have agrees : ∀ a, (tx.publish a).owner = a.owner ∧ (tx.publish a).currency = a.currency := by
    intro a
    unfold Transaction.publish
    split <;> exact ⟨rfl, rfl⟩
  exact { k with
    currencies := by
      rw [Store.publish_accounts, List.map_map]
      simpa only [Function.comp_def, agrees] using k.currencies
    owners := by
      intro a ha
      obtain ⟨b, hb, rfl⟩ := List.mem_map.mp ha
      rw [(agrees b).1]
      exact k.owners b hb }

end Tables

/-! ## Numbers -/

namespace Store

variable {s s' : Store} {ρ : Type} {g : Transaction → List ρ} {f : Transaction → Transaction}
    {tx : Transaction}

/-- Entries that are committed or staged. -/
def writtenEntries (s : Store) : List Entry :=
  s.tables.entries ++ s.transactions.flatMap Transaction.entries

/-- Transfers that are committed or staged. -/
def writtenTransfers (s : Store) : List Transfer :=
  s.tables.transfers ++ s.transactions.flatMap Transaction.transfers

theorem flatMap_update (t : Nat) (hf : ∀ tx, g (f tx) = g tx) :
    (s.update t f).transactions.flatMap g = s.transactions.flatMap g := by
  rw [update_transactions, List.flatMap_map]
  refine List.flatMap_congr fun tx _ => ?_
  split
  · exact hf tx
  · rfl

theorem perm_flatMap_open (nodup : s.tickets.Nodup) (htx : tx ∈ s.transactions) :
    s.transactions.flatMap g ~
      g tx ++ (s.transactions.filter fun x => x.ticket ≠ tx.ticket).flatMap g :=
  (perm_cons_filter nodup htx).flatMap_right g

/-- One transaction stages a row. -/
theorem perm_flatMap_stage {row : ρ} (nodup : s.tickets.Nodup) (htx : tx ∈ s.transactions)
    (hf : g (f tx) = g tx ++ [row]) :
    (s.update tx.ticket f).transactions.flatMap g ~ row :: s.transactions.flatMap g := by
  have others : (s.transactions.filter fun x => x.ticket ≠ tx.ticket).map
      (fun x => if x.ticket = tx.ticket then f x else x) =
        s.transactions.filter fun x => x.ticket ≠ tx.ticket := by
    refine (List.map_congr_left fun x hx => ?_).trans (List.map_id _)
    have hne : x.ticket ≠ tx.ticket := by simpa using (List.mem_filter.mp hx).2
    exact if_neg hne
  have updated := (perm_cons_filter nodup htx).map
    fun x : Transaction => if x.ticket = tx.ticket then f x else x
  rw [List.map_cons, if_pos rfl, others] at updated
  calc (s.update tx.ticket f).transactions.flatMap g
      ~ g (f tx) ++ (s.transactions.filter fun x => x.ticket ≠ tx.ticket).flatMap g :=
        updated.flatMap_right g
    _ ~ row :: (g tx ++ (s.transactions.filter fun x => x.ticket ≠ tx.ticket).flatMap g) := by
        rw [hf, List.append_assoc]
        exact List.perm_middle
    _ ~ row :: s.transactions.flatMap g := ((perm_flatMap_open nodup htx).symm).cons row

/-- No row is written, though some may go. -/
structure Sheds (s s' : Store) : Prop where
  entries : s'.writtenEntries <+~ s.writtenEntries
  transfers : s'.writtenTransfers <+~ s.writtenTransfers
  entry : s'.issued.entry = s.issued.entry
  transfer : s'.issued.transfer = s.issued.transfer

theorem Sheds.of_eq (entries : s'.tables.entries = s.tables.entries)
    (transfers : s'.tables.transfers = s.tables.transfers)
    (transactions : s'.transactions = s.transactions) (entry : s'.issued.entry = s.issued.entry)
    (transfer : s'.issued.transfer = s.issued.transfer) : Sheds s s' := by
  constructor
  · rw [writtenEntries, writtenEntries, entries, transactions]
  · rw [writtenTransfers, writtenTransfers, transfers, transactions]
  · exact entry
  · exact transfer

theorem Sheds.trans {s'' : Store} (h : Sheds s s') (h' : Sheds s' s'') : Sheds s s'' :=
  ⟨h'.entries.trans h.entries, h'.transfers.trans h.transfers, h'.entry.trans h.entry,
    h'.transfer.trans h.transfer⟩

theorem sheds_update (t : Nat) (entries : ∀ tx, (f tx).entries = tx.entries)
    (transfers : ∀ tx, (f tx).transfers = tx.transfers) : Sheds s (s.update t f) := by
  constructor
  · rw [writtenEntries, flatMap_update t entries]
    exact .refl _
  · rw [writtenTransfers, flatMap_update t transfers]
    exact .refl _
  · rfl
  · rfl

theorem sheds_begin : Sheds s s.begin.2 := by
  constructor
  · simp [writtenEntries, begin, draw, List.Subperm.refl]
  · simp [writtenTransfers, begin, draw, List.Subperm.refl]
  · rfl
  · rfl

theorem sheds_discard (t : Nat) : Sheds s (s.discard t) := by
  constructor
  · exact ((List.filter_sublist.flatMap _).append_left _).subperm
  · exact ((List.filter_sublist.flatMap _).append_left _).subperm
  · rfl
  · rfl

/-- A commit moves rows from where they are staged. -/
theorem perm_commit {id : ρ → Int} {rows : List ρ} (nodup : s.tickets.Nodup)
    (htx : tx ∈ s.transactions) :
    Table.insertAll id (g tx) rows ++ (s.discard tx.ticket).transactions.flatMap g ~
      rows ++ s.transactions.flatMap g := by
  calc Table.insertAll id (g tx) rows ++ (s.discard tx.ticket).transactions.flatMap g
      ~ (rows ++ g tx) ++ (s.discard tx.ticket).transactions.flatMap g :=
        ((Table.perm_insertAll _ _).trans List.perm_append_comm).append_right _
    _ = rows ++ (g tx ++ (s.discard tx.ticket).transactions.flatMap g) := List.append_assoc ..
    _ ~ rows ++ s.transactions.flatMap g := (perm_flatMap_open nodup htx).symm.append_left rows

theorem sheds_commit (nodup : s.tickets.Nodup) (htx : tx ∈ s.transactions) :
    Sheds s ((s.publish tx).discard tx.ticket) where
  entries := (perm_commit nodup htx).subperm
  transfers := (perm_commit nodup htx).subperm
  entry := rfl
  transfer := rfl

/-- The numbers of entries and transfers, and that all transfers move something. -/
structure Counted (s : Store) : Prop where
  entries : Numbered Entry.id s.writtenEntries s.issued.entry
  transfers : Numbered Transfer.id s.writtenTransfers s.issued.transfer
  amounts : ∀ f ∈ s.writtenTransfers, 0 < f.amount

namespace Counted

theorem of_sheds (c : Counted s) (sheds : Sheds s s') : Counted s' where
  entries := by
    rw [sheds.entry]
    exact c.entries.of_subperm sheds.entries
  transfers := by
    rw [sheds.transfer]
    exact c.transfers.of_subperm sheds.transfers
  amounts f hf := c.amounts f (sheds.transfers.subset hf)

variable {t : Nat} {now : Timestamp} {amount : Amount}

theorem stageEntry {account : Int} {e : Entry} (c : Counted s) (nodup : s.tickets.Nodup)
    (h : s.stageEntry t account amount now = .ok (e, s')) : Counted s' := by
  obtain ⟨isOpen, _, he, rfl⟩ := stageEntry_eq_ok_iff.mp h
  obtain ⟨tx, htx, rfl⟩ := isSome_transaction?_iff.mp isOpen
  have staged := perm_flatMap_stage (s := { s with issued.entry := s.issued.entry + 1 })
    (g := Transaction.entries) (f := fun tx => { tx with entries := tx.entries ++ [e] }) nodup htx
    rfl
  have same := flatMap_update (s := { s with issued.entry := s.issued.entry + 1 })
    (g := Transaction.transfers) (f := fun tx => { tx with entries := tx.entries ++ [e] })
    tx.ticket fun _ => rfl
  constructor
  · exact c.entries.next (by rw [he]) ((staged.append_left _).trans List.perm_middle)
  · rw [writtenTransfers, same]
    exact c.transfers
  · rw [writtenTransfers, same]
    exact c.amounts

theorem stageTransfer {source target : Int} {f : Transfer} (c : Counted s)
    (nodup : s.tickets.Nodup)
    (h : s.stageTransfer t source target amount now = .ok (f, s')) : Counted s' := by
  obtain ⟨isOpen, positive, _, _, hf, rfl⟩ := stageTransfer_eq_ok_iff.mp h
  obtain ⟨tx, htx, rfl⟩ := isSome_transaction?_iff.mp isOpen
  have staged := perm_flatMap_stage (s := { s with issued.transfer := s.issued.transfer + 1 })
    (g := Transaction.transfers) (f := fun tx => { tx with transfers := tx.transfers ++ [f] }) nodup
    htx rfl
  have same := flatMap_update (s := { s with issued.transfer := s.issued.transfer + 1 })
    (g := Transaction.entries) (f := fun tx => { tx with transfers := tx.transfers ++ [f] })
    tx.ticket fun _ => rfl
  have perm := (staged.append_left s.tables.transfers).trans List.perm_middle
  constructor
  · rw [writtenEntries, same]
    exact c.entries
  · exact c.transfers.next (by rw [hf]) perm
  · intro x hx
    rcases List.mem_cons.mp (perm.mem_iff.mp hx) with rfl | hx
    · rw [hf]
      exact Int64.not_le.mp positive
    · exact c.amounts x hx

end Counted
end Store

/-! ## Every run -/

namespace Traffic

theorem Effect.keyed {T T' : Traffic} {events : List Event} (effect : Effect T events T')
    (k : T.store.tables.Keyed) : T'.store.tables.Keyed := by
  cases effect with
  | quiet | begin | queueAdd | queueDelete | cancel | discard => exact k
  | createUser h =>
    obtain ⟨fresh, email, rfl, rfl⟩ := Store.createUser_eq_ok_iff.mp h
    exact k.concat_user fresh email
  | createSession h =>
    obtain ⟨user, fresh, rfl, rfl⟩ := Store.createSession_eq_ok_iff.mp h
    exact k.concat_session fresh user
  | createAccount h =>
    obtain ⟨user, fresh, rfl, rfl⟩ := Store.createAccount_eq_ok_iff.mp h
    exact k.concat_account user fresh
  | stageTransfer h =>
    rw [(Store.stageTransfer_keeps h).tables]
    exact k
  | stageEntry h =>
    rw [(Store.stageEntry_keeps h).tables]
    exact k
  | addStaged free htx hrow h =>
    rw [(Store.addStaged_keeps h).tables]
    exact k
  | grantAdd holds h =>
    rw [(Store.addGranted_keeps h).tables]
    exact k
  | grantDelete holds h =>
    rcases Store.deleteGranted_cases h with ⟨rfl, _⟩ | ⟨_, _, _, rfl⟩
    · exact k
    · exact k.filter_accounts _
  | commit free htx => exact k.publish _

theorem Effect.counted {T T' : Traffic} {events : List Event} (effect : Effect T events T')
    (nodup : T.store.tickets.Nodup) (c : T.store.Counted) : T'.store.Counted := by
  cases effect with
  | quiet => exact c
  | createUser h =>
    obtain ⟨_, _, _, rfl⟩ := Store.createUser_eq_ok_iff.mp h
    exact c.of_sheds (.of_eq rfl rfl rfl rfl rfl)
  | createSession h =>
    rw [Store.createSession_eq_ok h]
    exact c.of_sheds (.of_eq rfl rfl rfl rfl rfl)
  | createAccount h =>
    obtain ⟨_, _, _, rfl⟩ := Store.createAccount_eq_ok_iff.mp h
    exact c.of_sheds (.of_eq rfl rfl rfl rfl rfl)
  | begin => exact c.of_sheds Store.sheds_begin
  | stageTransfer h => exact c.stageTransfer nodup h
  | stageEntry h => exact c.stageEntry nodup h
  | addStaged free htx hrow h =>
    obtain ⟨_, _, _, rfl⟩ := Store.addStaged_eq_ok_iff.mp h
    exact c.of_sheds (Store.sheds_update _ (fun _ => rfl) fun _ => rfl)
  | queueAdd | queueDelete | cancel => exact c.of_sheds (.of_eq rfl rfl rfl rfl rfl)
  | @grantAdd s s' before after r amount answer holds h =>
    have copied : ∀ row, s.Sheds (s.copyRow r.ticket row) := fun _ =>
      Store.sheds_update _ (fun _ => rfl) fun _ => rfl
    rcases Store.addGranted_cases h with ⟨_, rfl, _⟩ | ⟨row, _, ⟨a, ha, _⟩ | ⟨rfl, _⟩⟩
    · exact c.of_sheds (.of_eq rfl rfl rfl rfl rfl)
    · obtain ⟨_, _, _, rfl⟩ := Store.addStaged_eq_ok_iff.mp ha
      exact c.of_sheds ((copied row).trans (Store.sheds_update _ (fun _ => rfl) fun _ => rfl))
    · exact c.of_sheds (copied row)
  | grantDelete holds h =>
    rcases Store.deleteGranted_cases h with ⟨rfl, _⟩ | ⟨_, _, _, rfl⟩ <;>
      exact c.of_sheds (.of_eq rfl rfl rfl rfl rfl)
  | discard => exact c.of_sheds (Store.sheds_discard _)
  | @commit s ws t tx free htx =>
    obtain ⟨hmem, rfl⟩ := Store.mem_of_transaction? htx
    exact c.of_sheds (Store.sheds_commit nodup hmem)

theorem Run.keyed {history : List Event} {T : Traffic} (run : Run history T) :
    T.store.tables.Keyed :=
  run.invariant (by constructor <;> simp [Store.empty]) fun k effect => effect.keyed k

theorem counted_empty : Store.empty.Counted := by
  refine ⟨⟨?_, ?_⟩, ⟨?_, ?_⟩, ?_⟩ <;>
    simp [Store.writtenEntries, Store.writtenTransfers, Store.empty]

theorem Run.counted {history : List Event} {T : Traffic} (run : Run history T) :
    T.store.Counted :=
  (run.invariant (P := fun _ T => Orderly T.store T.waiting ∧ T.store.Counted)
    ⟨orderly_empty, counted_empty⟩
    fun ⟨o, c⟩ effect => ⟨effect.orderly o, effect.counted o.transactions_nodup c⟩).2

end Traffic

/-- What every store keeps to: its keys, its users, its numbers and its locks. -/
structure Store.Consistent (s : Store) : Prop where
  users : ∀ username u, s.tables.user? username = some u ↔
    u ∈ s.tables.users ∧ u.username = username
  sessions : ∀ id x, s.tables.session? id = some x ↔ x ∈ s.tables.sessions ∧ x.id = id
  accounts : ∀ id a, s.tables.account? id = some a ↔ a ∈ s.tables.accounts ∧ a.id = id
  entries : ∀ id e, s.tables.entry? id = some e ↔ e ∈ s.tables.entries ∧ e.id = id
  transfers : ∀ id f, s.tables.transfer? id = some f ↔ f ∈ s.tables.transfers ∧ f.id = id
  emails : ∀ u ∈ s.tables.users, ∀ v ∈ s.tables.users, u.email = v.email → u = v
  currencies : ∀ a ∈ s.tables.accounts, ∀ b ∈ s.tables.accounts,
    a.owner = b.owner → a.currency = b.currency → a = b
  owners : ∀ a ∈ s.tables.accounts, (s.tables.user? a.owner).isSome
  logins : ∀ x ∈ s.tables.sessions, (s.tables.user? x.username).isSome
  amounts : ∀ f ∈ s.writtenTransfers, 0 < f.amount
  lockable : ∀ id, id ∈ s.lockable ↔ (s.tables.account? id).isSome
  /-- A locked row is the account's, but for the balance. -/
  locked : ∀ tx ∈ s.transactions, ∀ row ∈ tx.rows, s.Holds ⟨tx.ticket, row.id⟩ ∧
    ∃ a, s.tables.account? row.id = some a ∧
      a.owner = row.owner ∧ a.currency = row.currency ∧ a.createdAt = row.createdAt
  /-- Nobody else has locked it. -/
  alone : ∀ tx ∈ s.transactions, ∀ row ∈ tx.rows, ∀ tx' ∈ s.transactions, ∀ row' ∈ tx'.rows,
    row.id = row'.id → tx = tx' ∧ row = row'
  account_ids : Numbered Account.id s.tables.accounts s.issued.account
  entry_ids : Numbered Entry.id s.writtenEntries s.issued.entry
  transfer_ids : Numbered Transfer.id s.writtenTransfers s.issued.transfer

theorem find?_key_eq_some_iff {κ ρ : Type} [BEq κ] [LawfulBEq κ] {key : ρ → κ} {rows : List ρ}
    (nodup : (rows.map key).Nodup) {k : κ} {row : ρ} :
    rows.find? (fun r => key r == k) = some row ↔ row ∈ rows ∧ key row = k := by
  constructor
  · intro h
    exact ⟨List.mem_of_find?_eq_some h, by simpa using List.find?_some h⟩
  · rintro ⟨hrow, rfl⟩
    exact find?_key_of_mem key nodup hrow

namespace Traffic

/-- Whatever calls are made, and in whatever order they wait, go on and are dropped, the store is
consistent. -/
theorem Run.consistent {history : List Event} {T : Traffic} (run : Run history T) :
    T.store.Consistent := by
  have o := run.orderly
  have k := run.keyed
  have c := run.counted
  have committed_entries := c.entries.of_subperm (List.sublist_append_left _ _).subperm
  have committed_transfers := c.transfers.of_subperm (List.sublist_append_left _ _).subperm
  exact {
    users := fun _ _ => find?_key_eq_some_iff k.usernames
    sessions := fun _ _ => find?_key_eq_some_iff k.sessions
    accounts := fun _ _ => find?_key_eq_some_iff o.accounts_nodup
    entries := fun _ _ => find?_key_eq_some_iff committed_entries.nodup
    transfers := fun _ _ => find?_key_eq_some_iff committed_transfers.nodup
    emails := fun u hu v hv => List.inj_on_of_nodup_map k.emails hu hv
    currencies := fun a ha b hb howner hcurrency =>
      List.inj_on_of_nodup_map k.currencies ha hb (Prod.ext howner hcurrency)
    owners := fun a ha => Tables.isSome_user?_iff.mpr (k.owners a ha)
    logins := fun x hx => Tables.isSome_user?_iff.mpr (k.logins x hx)
    amounts := c.amounts
    lockable := fun id => (o.mem_lockable_iff id).trans Tables.isSome_account?_iff.symm
    locked := by
      intro tx htx row hrow
      obtain ⟨holds, a, ha, hagrees⟩ := o.rows_locked tx htx row hrow
      rw [hagrees.id_eq]
      refine ⟨hagrees.id_eq ▸ holds, a, o.account?_eq_some ha, ?_⟩
      rw [hagrees.eq]
      exact ⟨rfl, rfl, rfl⟩
    alone := by
      intro tx htx row hrow tx' htx' row' hrow' hid
      have := o.eq_of_locked htx htx' hrow hrow' hid
      subst this
      exact ⟨rfl, List.inj_on_of_nodup_map (o.rows_nodup tx htx) hrow hrow' hid⟩
    account_ids := ⟨o.accounts_nodup, o.accounts_issued⟩
    entry_ids := c.entries
    transfer_ids := c.transfers }

/-- A transaction that has staged rows and locked an account, while a deletion waits for it. -/
theorem Run.consistent_of_locked : ∃ (history : List Event) (T : Traffic), Run history T ∧
    T.waiting.length = 1 ∧
    (∃ tx ∈ T.store.transactions, tx.rows.length = 1 ∧ tx.transfers.length = 1) ∧
    T.store.Consistent := by
  have run := Run.start.call .epoch (.createUser ⟨"ada", "", "", ""⟩) (by decide) rfl
  have run := run.call .epoch (.createAccount ⟨"ada", .usd, 0⟩) (by decide) rfl
  have run := run.call .epoch (.createAccount ⟨"ada", .eur, 0⟩) (by decide) rfl
  have run := run.call .epoch .begin (by decide) rfl
  have run := run.call .epoch (.stageTransfer 1 1 2 5) (by decide) rfl
  have run := run.call .epoch (.stageEntry 1 1 (-5)) (by decide) rfl
  have run := run.call .epoch (.addBalance 1 1 (-5)) (by decide) rfl
  have run := run.step (@Step.wait _ _ [] [] .epoch ⟨⟨2, 1⟩, .delete⟩ (by decide) rfl)
  exact ⟨_, _, run, rfl, ⟨_, List.mem_singleton_self _, rfl, rfl⟩, run.consistent⟩

end Traffic
end Giro
