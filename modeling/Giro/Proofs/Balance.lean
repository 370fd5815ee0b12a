import Mathlib.Algebra.Ring.Int.Defs
import Giro.Proofs.RowLocks

/-!
# Balances and the history of a store

A commit writes absolute balances, each computed from a copy that was taken when the row was locked.
Here the balances are held against the history: an account holds what it was opened with and the
additions of committed transactions, each exactly once, and nothing else.
-/

namespace Giro

/-- An addition to a balance that was answered with success. -/
structure Addition where
  ticket : Nat
  account : Int
  amount : Amount

def Event.addition? : Event → Option Addition
  | .answered (.addBalance ticket account amount) (.ok _) => some ⟨ticket, account, amount⟩
  | _ => none

def Event.opened? : Event → Option Account
  | .answered (.createAccount _) (.ok a) => some a
  | _ => none

def Event.committed? : Event → Option Nat
  | .answered (.commit ticket) (.ok _) => some ticket
  | _ => none

/-- The exact sum of the additions that count. -/
def Addition.sumOf (p : Addition → Prop) [DecidablePred p] (ds : List Addition) : Int :=
  ((ds.filter fun d => p d).map fun d => d.amount.toInt).sum

namespace History

def additions (h : List Event) : List Addition := h.filterMap Event.addition?

/-- The accounts as they were opened. -/
def openings (h : List Event) : List Account := h.filterMap Event.opened?

def commits (h : List Event) : List Nat := h.filterMap Event.committed?

/-- What one transaction has added to an account so far. -/
def added (h : List Event) (ticket : Nat) (account : Int) : Int :=
  Addition.sumOf (fun d => d.ticket = ticket ∧ d.account = account) (additions h)

/-- What the committed transactions have added to an account. -/
def published (h : List Event) (account : Int) : Int :=
  Addition.sumOf (fun d => d.ticket ∈ commits h ∧ d.account = account) (additions h)

end History

namespace Addition

variable {p q : Addition → Prop} [DecidablePred p] [DecidablePred q] {d : Addition}
    {ds : List Addition}

theorem sumOf_cons_of_pos (h : p d) : sumOf p (d :: ds) = d.amount.toInt + sumOf p ds := by
  simp [sumOf, h]

theorem sumOf_cons_of_neg (h : ¬ p d) : sumOf p (d :: ds) = sumOf p ds := by
  simp [sumOf, h]

theorem sumOf_congr (h : ∀ d ∈ ds, p d ↔ q d) : sumOf p ds = sumOf q ds := by
  unfold sumOf
  rw [List.filter_congr fun d hd => decide_eq_decide.mpr (h d hd)]

theorem sumOf_eq_zero (h : ∀ d ∈ ds, ¬ p d) : sumOf p ds = 0 := by
  unfold sumOf
  rw [List.filter_eq_nil_iff.mpr fun d hd => by simpa using h d hd]
  rfl

theorem sumOf_or (h : ∀ d, ¬ (p d ∧ q d)) :
    sumOf (fun d => p d ∨ q d) ds = sumOf p ds + sumOf q ds := by
  induction ds with
  | nil => rfl
  | cons d ds ih =>
    by_cases hp : p d
    · have hq : ¬ q d := fun hq => h d ⟨hp, hq⟩
      rw [sumOf_cons_of_pos (Or.inl hp), sumOf_cons_of_pos hp, sumOf_cons_of_neg hq, ih]
      omega
    · by_cases hq : q d
      · rw [sumOf_cons_of_pos (Or.inr hq), sumOf_cons_of_neg hp, sumOf_cons_of_pos hq, ih]
        omega
      · rw [sumOf_cons_of_neg (not_or.mpr ⟨hp, hq⟩), sumOf_cons_of_neg hp, sumOf_cons_of_neg hq, ih]

end Addition

namespace History

variable {h : List Event} {ticket t : Nat} {account id : Int} {amount : Amount} {a : Account}

/-- An event that none of the three records. -/
structure Silent (e : Event) : Prop where
  addition : e.addition? = none
  opened : e.opened? = none
  committed : e.committed? = none

theorem silent_of_isQuiet {e : Event} (he : e.IsQuiet) : Silent e := by
  cases e with
  | dropped t => exact False.elim he
  | answered c answer =>
    rcases he with hc | ⟨e, rfl⟩
    · cases c with
      | addBalance | createAccount | commit => cases hc
      | _ => exact ⟨rfl, rfl, rfl⟩
    · cases c <;> exact ⟨rfl, rfl, rfl⟩

theorem Silent.additions_eq {e : Event} (he : Silent e) : additions (e :: h) = additions h :=
  List.filterMap_cons_none he.addition

theorem Silent.openings_eq {e : Event} (he : Silent e) : openings (e :: h) = openings h :=
  List.filterMap_cons_none he.opened

theorem Silent.commits_eq {e : Event} (he : Silent e) : commits (e :: h) = commits h :=
  List.filterMap_cons_none he.committed

theorem added_add_same :
    added (.answered (.addBalance t id amount) (.ok a) :: h) t id = amount.toInt + added h t id :=
  Addition.sumOf_cons_of_pos (d := ⟨t, id, amount⟩) ⟨rfl, rfl⟩

theorem added_add_other (hne : ¬ (t = ticket ∧ id = account)) :
    added (.answered (.addBalance t id amount) (.ok a) :: h) ticket account =
      added h ticket account :=
  Addition.sumOf_cons_of_neg (d := ⟨t, id, amount⟩) hne

theorem published_add (ht : t ∉ commits h) :
    published (.answered (.addBalance t id amount) (.ok a) :: h) account = published h account :=
  Addition.sumOf_cons_of_neg (d := ⟨t, id, amount⟩) fun hd => ht hd.1

theorem published_commit (ht : t ∉ commits h) :
    published (.answered (.commit t) (.ok ()) :: h) account =
      published h account + added h t account := by
  have hor : ∀ d : Addition, (d.ticket ∈ t :: commits h ∧ d.account = account) ↔
      (d.ticket ∈ commits h ∧ d.account = account) ∨ (d.ticket = t ∧ d.account = account) := by
    intro d
    rw [List.mem_cons]
    tauto
  calc
    published (.answered (.commit t) (.ok ()) :: h) account
        = Addition.sumOf (fun d => (d.ticket ∈ commits h ∧ d.account = account) ∨
            (d.ticket = t ∧ d.account = account)) (additions h) :=
          Addition.sumOf_congr fun d _ => hor d
    _ = published h account + added h t account :=
      Addition.sumOf_or fun d hd => ht (hd.2.1 ▸ hd.1.1)

theorem added_eq_zero (hd : ∀ d ∈ additions h, ¬ (d.ticket = t ∧ d.account = id)) :
    added h t id = 0 :=
  Addition.sumOf_eq_zero hd

theorem published_eq_zero (hd : ∀ d ∈ additions h, d.account ≠ id) : published h id = 0 :=
  Addition.sumOf_eq_zero fun d hm hid => hd d hm hid.2

end History

namespace Traffic

open History

/-- The balances of a store agree with its history: those that are committed, and those that open
transactions have staged. -/
structure Accounted (h : List Event) (s : Store) : Prop where
  openings_nodup : ((openings h).map Account.id).Nodup
  openings_issued : ∀ opening ∈ openings h, opening.id ≤ s.issued.account
  balance : ∀ a ∈ s.tables.accounts, ∃ opening ∈ openings h, opening.id = a.id ∧
    a.balance.toInt = opening.balance.toInt + published h a.id
  staged : ∀ tx ∈ s.transactions, ∀ row ∈ tx.rows, ∀ a ∈ s.tables.accounts, a.id = row.id →
    row.balance.toInt = a.balance.toInt + added h tx.ticket row.id
  untouched : ∀ tx ∈ s.transactions, ∀ id, tx.row? id = none → added h tx.ticket id = 0
  additions_issued : ∀ d ∈ additions h, d.ticket ≤ s.issued.ticket ∧ d.account ≤ s.issued.account
  commits_ended : ∀ t ∈ commits h, t ≤ s.issued.ticket ∧ ∀ tx ∈ s.transactions, tx.ticket ≠ t

theorem accounted_empty : Accounted [] .empty := by
  constructor <;> simp [openings, additions, commits, Store.empty]

namespace Accounted

variable {h : List Event} {s s' : Store} {ws : List Waiting} (i : Accounted h s) (o : Orderly s ws)
include i

theorem silent {e : Event} (he : Silent e) : Accounted (e :: h) s := by
  have hadded : ∀ t id, added (e :: h) t id = added h t id := by
    intro t id
    unfold added
    rw [he.additions_eq]
  have hpublished : ∀ id, published (e :: h) id = published h id := by
    intro id
    unfold published
    rw [he.additions_eq, he.commits_eq]
  constructor
  · rw [he.openings_eq]
    exact i.openings_nodup
  · rw [he.openings_eq]
    exact i.openings_issued
  · rw [he.openings_eq]
    simp only [hpublished]
    exact i.balance
  · simp only [hadded]
    exact i.staged
  · simp only [hadded]
    exact i.untouched
  · rw [he.additions_eq]
    exact i.additions_issued
  · rw [he.commits_eq]
    exact i.commits_ended

/-- Numbers that are given out, and rows that stage nothing on balances, do not matter. -/
theorem of_rows (haccounts : s'.tables.accounts = s.tables.accounts)
    (haccount : s'.issued.account = s.issued.account) (hticket : s.issued.ticket ≤ s'.issued.ticket)
    (htransactions : ∀ tx' ∈ s'.transactions,
      (∃ tx ∈ s.transactions, tx.ticket = tx'.ticket ∧ tx.rows = tx'.rows) ∨
      (tx'.rows = [] ∧ s.issued.ticket < tx'.ticket)) : Accounted h s' where
  openings_nodup := i.openings_nodup
  openings_issued := by rw [haccount]; exact i.openings_issued
  balance := by rw [haccounts]; exact i.balance
  staged := by
    intro tx' htx' row hrow a ha hid
    rw [haccounts] at ha
    rcases htransactions tx' htx' with ⟨tx, htx, ht, hrows⟩ | ⟨hrows, _⟩
    · rw [← ht]
      exact i.staged tx htx row (hrows ▸ hrow) a ha hid
    · rw [hrows] at hrow
      cases hrow
  untouched := by
    intro tx' htx' id hnone
    rcases htransactions tx' htx' with ⟨tx, htx, ht, hrows⟩ | ⟨_, hfresh⟩
    · rw [← ht]
      apply i.untouched tx htx id
      unfold Transaction.row? at hnone ⊢
      rw [hrows]
      exact hnone
    · apply added_eq_zero
      intro d hd hdt
      have := (i.additions_issued d hd).1
      omega
  additions_issued := by
    intro d hd
    have := i.additions_issued d hd
    rw [haccount]
    omega
  commits_ended := by
    intro t ht
    obtain ⟨hle, hended⟩ := i.commits_ended t ht
    refine ⟨by omega, fun tx' htx' heq => ?_⟩
    rcases htransactions tx' htx' with ⟨tx, htx, ht', _⟩ | ⟨_, hfresh⟩
    · exact hended tx htx (ht'.trans heq)
    · omega

theorem commits_ended_update {t : Nat} {f : Transaction → Transaction}
    (ticket_f : ∀ tx, (f tx).ticket = tx.ticket) :
    ∀ t' ∈ commits h, t' ≤ s.issued.ticket ∧
      ∀ tx ∈ (s.update t f).transactions, tx.ticket ≠ t' := by
  intro t' ht'
  refine ⟨(i.commits_ended t' ht').1, fun tx htx => ?_⟩
  rcases Store.mem_update.mp htx with ⟨old, hold, _, rfl⟩ | ⟨htx, _⟩
  · rw [ticket_f]
    exact (i.commits_ended t' ht').2 old hold
  · exact (i.commits_ended t' ht').2 tx htx

theorem filterAccounts {id : Int} {lockable : List Int} :
    Accounted h { s with
      tables.accounts := s.tables.accounts.filter fun a => a.id ≠ id
      lockable } :=
  { i with
    balance := fun a ha => i.balance a (List.mem_of_mem_filter ha)
    staged := fun tx htx row hrow a ha => i.staged tx htx row hrow a (List.mem_of_mem_filter ha) }

theorem discard (t : Nat) : Accounted h (s.discard t) :=
  { i with
    staged := fun tx htx => i.staged tx (List.mem_of_mem_filter htx)
    untouched := fun tx htx => i.untouched tx (List.mem_of_mem_filter htx)
    commits_ended := fun t' ht' => ⟨(i.commits_ended t' ht').1,
      fun tx htx => (i.commits_ended t' ht').2 tx (List.mem_of_mem_filter htx)⟩ }

include o

theorem createAccount {new : NewAccount} {now : Timestamp} {a : Account}
    (hs : s.createAccount new now = .ok (a, s')) :
    Accounted (.answered (.createAccount new) (.ok a) :: h) s' := by
  obtain ⟨_, _, ha, rfl⟩ := Store.createAccount_eq_ok_iff.mp hs
  have hid : a.id = s.issued.account + 1 := by rw [ha]
  have hopenings : openings (.answered (.createAccount new) (.ok a) :: h) = a :: openings h := rfl
  exact { i with
    openings_nodup := by
      rw [hopenings, List.map_cons]
      refine List.nodup_cons.mpr ⟨fun hm => ?_, i.openings_nodup⟩
      obtain ⟨opening, hopening, heq⟩ := List.mem_map.mp hm
      have := i.openings_issued opening hopening
      omega
    openings_issued := by
      intro opening hopening
      rw [hopenings, List.mem_cons] at hopening
      simp only
      rcases hopening with rfl | hopening
      · omega
      · have := i.openings_issued opening hopening
        omega
    balance := by
      intro b hb
      rcases List.mem_append.mp hb with hb | hb
      · obtain ⟨opening, hopening, hrest⟩ := i.balance b hb
        exact ⟨opening, List.mem_cons_of_mem _ hopening, hrest⟩
      · rw [List.mem_singleton.mp hb]
        refine ⟨a, List.mem_cons_self, rfl, ?_⟩
        have hzero : published h a.id = 0 := published_eq_zero fun d hd heq => by
          have := (i.additions_issued d hd).2
          omega
        change a.balance.toInt = a.balance.toInt + published h a.id
        omega
    staged := by
      intro tx htx row hrow b hb heq
      rcases List.mem_append.mp hb with hb | hb
      · exact i.staged tx htx row hrow b hb heq
      · obtain ⟨c, hc, hagrees⟩ := (o.rows_locked tx htx row hrow).2
        have := (o.accounts_issued c hc).2
        rw [List.mem_singleton.mp hb, hagrees.id_eq] at heq
        omega
    additions_issued := by
      intro d hd
      have := i.additions_issued d hd
      simp only
      omega }

theorem copyRow {t : Nat} {account : Int} {row : Account} {tx : Transaction}
    (htx : tx ∈ s.transactions) (ht : tx.ticket = t) (hnone : tx.row? account = none)
    (hrow : s.tables.account? account = some row) : Accounted h (s.copyRow t row) := by
  obtain ⟨hrow, hid⟩ := Tables.mem_of_account? hrow
  exact { i with
    staged := by
      intro tx' htx' b hb a ha heq
      rcases Store.mem_update.mp htx' with ⟨old, hold, hot, rfl⟩ | ⟨htx', _⟩
      · rcases List.mem_append.mp hb with hb | hb
        · exact i.staged old hold b hb a ha heq
        · rw [List.mem_singleton.mp hb] at heq ⊢
          have hmine : old = tx := o.eq_of_ticket hold htx (hot.trans ht.symm)
          have hzero := i.untouched tx htx account hnone
          rw [o.eq_of_account_id ha hrow heq, hmine, hid, hzero]
          omega
      · exact i.staged tx' htx' b hb a ha heq
    untouched := by
      intro tx' htx' id hid'
      rcases Store.mem_update.mp htx' with ⟨old, hold, _, rfl⟩ | ⟨htx', _⟩
      · refine i.untouched old hold id (Transaction.row?_eq_none_iff.mpr fun b hb => ?_)
        exact Transaction.row?_eq_none_iff.mp hid' b (List.mem_append_left _ hb)
      · exact i.untouched tx' htx' id hid'
    commits_ended := i.commits_ended_update fun _ => rfl }

theorem addStaged {t : Nat} {tx : Transaction} {row a : Account} {amount : Amount}
    (htx : tx ∈ s.transactions) (ht : tx.ticket = t) (hrow : row ∈ tx.rows)
    (hs : s.addStaged t row amount = .ok (a, s')) :
    Accounted (.answered (.addBalance t row.id amount) (.ok a) :: h) s' := by
  obtain ⟨balance, hsum, rfl, rfl⟩ := Store.addStaged_eq_ok_iff.mp hs
  have hopen : t ∉ commits h := fun hm => (i.commits_ended t hm).2 tx htx ht
  exact { i with
    balance := by
      intro b hb
      obtain ⟨opening, hopening, hid, hbalance⟩ := i.balance b hb
      refine ⟨opening, hopening, hid, ?_⟩
      rw [published_add hopen]
      exact hbalance
    staged := by
      intro tx' htx' b hb c hc heq
      rcases Store.mem_update.mp htx' with ⟨old, hold, hot, rfl⟩ | ⟨htx', hne⟩
      · have hmine : old = tx := o.eq_of_ticket hold htx (hot.trans ht.symm)
        subst hmine
        obtain ⟨b₀, hb₀, rfl⟩ := List.mem_map.mp hb
        rw [Transaction.id_setBalance] at heq ⊢
        have hstaged := i.staged old htx b₀ hb₀ c hc heq
        by_cases hid : b₀.id = row.id
        · have hb₀' := o.row?_eq_some htx hb₀
          rw [hid, o.row?_eq_some htx hrow] at hb₀'
          cases hb₀'
          simp only [Transaction.setBalance, if_pos]
          rw [ht, added_add_same]
          rw [ht] at hstaged
          omega
        · simp only [Transaction.setBalance, if_neg hid]
          rw [added_add_other fun hand => hid hand.2.symm]
          exact hstaged
      · rw [added_add_other fun hand => hne hand.1.symm]
        exact i.staged tx' htx' b hb c hc heq
    untouched := by
      intro tx' htx' id hnone
      rcases Store.mem_update.mp htx' with ⟨old, hold, hot, rfl⟩ | ⟨htx', hne⟩
      · have hmine : old = tx := o.eq_of_ticket hold htx (hot.trans ht.symm)
        subst hmine
        have hnone' : ∀ b ∈ old.rows, b.id ≠ id := by
          intro b hb
          have := Transaction.row?_eq_none_iff.mp hnone _ (List.mem_map_of_mem hb)
          rwa [Transaction.id_setBalance] at this
        rw [added_add_other fun hand => hnone' row hrow hand.2]
        exact i.untouched old htx id (Transaction.row?_eq_none_iff.mpr hnone')
      · rw [added_add_other fun hand => hne hand.1.symm]
        exact i.untouched tx' htx' id hnone
    additions_issued := by
      intro d hd
      have hd : d = ⟨t, row.id, amount⟩ ∨ d ∈ additions h := List.mem_cons.mp hd
      rcases hd with rfl | hd
      · obtain ⟨c, hc, hagrees⟩ := (o.rows_locked tx htx row hrow).2
        exact ⟨ht ▸ o.transactions_issued tx htx, hagrees.id_eq ▸ (o.accounts_issued c hc).2⟩
      · exact i.additions_issued d hd
    commits_ended := i.commits_ended_update fun _ => rfl }

theorem commit {t : Nat} {tx : Transaction} (htx : tx ∈ s.transactions) (ht : tx.ticket = t) :
    Accounted (.answered (.commit t) (.ok ()) :: h) ((s.publish tx).discard t) := by
  have hopen : t ∉ commits h := fun hm => (i.commits_ended t hm).2 tx htx ht
  have hbalance : ∀ a ∈ s.tables.accounts,
      (tx.publish a).balance.toInt = a.balance.toInt + added h t a.id := by
    intro a ha
    unfold Transaction.publish
    split
    · rename_i row hrow
      obtain ⟨hm, hid⟩ := Transaction.mem_of_row? hrow
      rw [← ht, ← hid]
      exact i.staged tx htx row hm a ha hid.symm
    · rename_i hnone
      rw [← ht, i.untouched tx htx a.id hnone]
      omega
  exact { i with
    balance := by
      intro b hb
      obtain ⟨a, ha, rfl⟩ := List.mem_map.mp hb
      obtain ⟨opening, hopening, hid, hrest⟩ := i.balance a ha
      refine ⟨opening, hopening, ?_, ?_⟩
      · rw [Transaction.id_publish]
        exact hid
      · rw [Transaction.id_publish, published_commit hopen, hbalance a ha]
        omega
    staged := by
      intro tx' htx' row hrow b hb heq
      obtain ⟨htx', hne⟩ : tx' ∈ s.transactions ∧ tx'.ticket ≠ t := by simpa using htx'
      obtain ⟨a, ha, rfl⟩ := List.mem_map.mp hb
      rw [Transaction.id_publish] at heq
      -- A row that another transaction has locked is not among those that are published.
      have hnone : tx.row? a.id = none := by
        refine Transaction.row?_eq_none_iff.mpr fun row₀ hrow₀ hid₀ => hne ?_
        rw [o.eq_of_locked htx' htx hrow hrow₀ (heq.symm.trans hid₀.symm), ht]
      rw [Transaction.publish_eq_self hnone]
      exact i.staged tx' htx' row hrow a ha heq
    untouched := fun tx' htx' => i.untouched tx' (List.mem_of_mem_filter htx')
    commits_ended := by
      intro t' ht'
      have hcommits : commits (.answered (.commit t) (.ok ()) :: h) = t :: commits h := rfl
      rw [hcommits, List.mem_cons] at ht'
      rcases ht' with rfl | ht'
      · refine ⟨ht ▸ o.transactions_issued tx htx, fun tx' htx' => ?_⟩
        have : tx' ∈ s.transactions ∧ tx'.ticket ≠ t' := by simpa using htx'
        exact this.2
      · exact ⟨(i.commits_ended t' ht').1, fun tx' htx' =>
          (i.commits_ended t' ht').2 tx' (List.mem_of_mem_filter htx')⟩ }

end Accounted

theorem Effect.accounted {T T' : Traffic} {h events : List Event} (effect : Effect T events T')
    (o : Orderly T.store T.waiting) (i : Accounted h T.store) :
    Accounted (events ++ h) T'.store := by
  have same : ∀ {s : Store}, ∀ tx ∈ s.transactions,
      (∃ tx' ∈ s.transactions, tx'.ticket = tx.ticket ∧ tx'.rows = tx.rows) ∨
        (tx.rows = [] ∧ s.issued.ticket < tx.ticket) := fun tx htx => Or.inl ⟨tx, htx, rfl, rfl⟩
  cases effect with
  | quiet he => exact i.silent (silent_of_isQuiet he)
  | createUser hs =>
    obtain ⟨_, _, _, rfl⟩ := Store.createUser_eq_ok_iff.mp hs
    exact (i.silent ⟨rfl, rfl, rfl⟩).of_rows rfl rfl (Nat.le_refl _) same
  | createSession hs =>
    rw [Store.createSession_eq_ok hs]
    exact (i.silent ⟨rfl, rfl, rfl⟩).of_rows rfl rfl (Nat.le_refl _) same
  | createAccount hs => exact i.createAccount o hs
  | begin =>
    refine (i.silent ⟨rfl, rfl, rfl⟩).of_rows rfl rfl (Nat.le_succ _) fun tx htx => ?_
    rcases List.mem_append.mp htx with htx | htx
    · exact same tx htx
    · rw [List.mem_singleton.mp htx]
      exact Or.inr ⟨rfl, Nat.lt_succ_self _⟩
  | stageTransfer hs =>
    obtain ⟨_, _, _, _, _, rfl⟩ := Store.stageTransfer_eq_ok_iff.mp hs
    refine (i.silent ⟨rfl, rfl, rfl⟩).of_rows rfl rfl (Nat.le_refl _) fun tx htx => ?_
    rcases Store.mem_update.mp htx with ⟨old, hold, _, rfl⟩ | ⟨htx, _⟩
    · exact Or.inl ⟨old, hold, rfl, rfl⟩
    · exact same tx htx
  | stageEntry hs =>
    obtain ⟨_, _, _, rfl⟩ := Store.stageEntry_eq_ok_iff.mp hs
    refine (i.silent ⟨rfl, rfl, rfl⟩).of_rows rfl rfl (Nat.le_refl _) fun tx htx => ?_
    rcases Store.mem_update.mp htx with ⟨old, hold, _, rfl⟩ | ⟨htx, _⟩
    · exact Or.inl ⟨old, hold, rfl, rfl⟩
    · exact same tx htx
  | addStaged free htx hrow hs =>
    obtain ⟨htx, ht⟩ := Store.mem_of_transaction? htx
    obtain ⟨hm, hid⟩ := Transaction.mem_of_row? hrow
    subst hid
    exact i.addStaged o htx ht hm hs
  | queueAdd => exact i.of_rows rfl rfl (Nat.le_refl _) same
  | queueDelete => exact i.of_rows rfl rfl (Nat.le_succ _) fun tx htx => Or.inl ⟨tx, htx, rfl, rfl⟩
  | @grantAdd s s' before after r amount answer holds hs =>
    rcases Store.addGranted_cases hs with ⟨_, rfl, rfl⟩ | ⟨row, hrow, hrest⟩
    · exact (i.silent (silent_of_isQuiet (quiet_error _))).of_rows rfl rfl (Nat.le_refl _) same
    obtain ⟨tx, htx, ht, hnone⟩ := o.exists_unlocked List.mem_append_cons_self
    have copied : Accounted h (s.copyRow r.ticket row) := i.copyRow o htx ht hnone hrow
    rcases hrest with ⟨a, ha, rfl⟩ | ⟨rfl, e, rfl⟩
    · have hid := (Tables.mem_of_account? hrow).2
      have hmine : { tx with rows := tx.rows ++ [row] } ∈ (s.copyRow r.ticket row).transactions :=
        Store.mem_update.mpr (Or.inl ⟨tx, htx, ht, rfl⟩)
      rw [← hid]
      exact copied.addStaged (o.copyRow holds hrow) hmine ht
        (List.mem_append_right _ (List.mem_singleton_self _)) ha
    · exact copied.silent (silent_of_isQuiet (quiet_error _))
  | @grantDelete s s' before after r answer holds hs =>
    rcases Store.deleteGranted_cases hs with ⟨rfl, e, rfl⟩ | ⟨_, _, rfl, rfl⟩
    · exact (i.silent (silent_of_isQuiet (quiet_error _))).of_rows rfl rfl (Nat.le_refl _) same
    · have given : Accounted (.answered (.deleteAccount r.account) (.ok ()) :: h) (s.withdraw r) :=
        (i.silent ⟨rfl, rfl, rfl⟩).of_rows rfl rfl (Nat.le_refl _) same
      exact given.filterAccounts
  | cancel => exact i.of_rows rfl rfl (Nat.le_refl _) same
  | @discard s ws t e isOpen free he =>
    have hsilent : Silent e := by
      rcases he with rfl | rfl <;> exact ⟨rfl, rfl, rfl⟩
    exact (i.silent hsilent).discard t
  | commit free htx =>
    obtain ⟨htx, ht⟩ := Store.mem_of_transaction? htx
    exact i.commit o htx ht

theorem Run.accounted {h : List Event} {T : Traffic} (run : Run h T) : Accounted h T.store :=
  (run.invariant (P := fun h T => Orderly T.store T.waiting ∧ Accounted h T.store)
    ⟨orderly_empty, accounted_empty⟩
    fun ⟨o, i⟩ effect => ⟨effect.orderly o, effect.accounted o i⟩).2

/-- An addition that succeeds answers with the committed row of the account, the balance changed by
all that its transaction has added to it. -/
theorem Effect.answer_of_add {T T' : Traffic} {h : List Event} {t : Nat} {id : Int}
    {amount : Amount} {a : Account}
    (effect : Effect T [.answered (.addBalance t id amount) (.ok a)] T')
    (o : Orderly T.store T.waiting) (i : Accounted h T.store) :
    ∃ c ∈ T.store.tables.accounts, c.id = id ∧ a.Agrees c ∧
      a.balance.toInt = c.balance.toInt + added h t id + amount.toInt := by
  cases effect with
  | quiet he =>
    rcases he with he | ⟨e, he⟩
    · cases he
    · cases he
  | discard isOpen free he =>
    rcases he with he | he <;> cases he
  | addStaged free htx hrow hs =>
    obtain ⟨htx, ht⟩ := Store.mem_of_transaction? htx
    obtain ⟨hrow, hid⟩ := Transaction.mem_of_row? hrow
    obtain ⟨balance, hsum, rfl, rfl⟩ := Store.addStaged_eq_ok_iff.mp hs
    obtain ⟨c, hc, hagrees⟩ := (o.rows_locked _ htx _ hrow).2
    have hstaged := i.staged _ htx _ hrow c hc hagrees.id_eq.symm
    rw [ht, hid] at hstaged
    refine ⟨c, hc, hagrees.id_eq.symm.trans hid, hagrees.with_balance balance, ?_⟩
    simp only
    omega
  | @grantAdd s s' before after r _ _ holds hs =>
    rcases Store.addGranted_cases hs with ⟨_, _, he⟩ | ⟨row, hrow, ⟨a', ha, he⟩ | ⟨_, e, he⟩⟩
    · cases he
    · cases he
      obtain ⟨tx, htx, ht, hnone⟩ := o.exists_unlocked List.mem_append_cons_self
      obtain ⟨balance, hsum, rfl, rfl⟩ := Store.addStaged_eq_ok_iff.mp ha
      obtain ⟨hm, hid⟩ := Tables.mem_of_account? hrow
      have hzero := i.untouched tx htx r.account hnone
      rw [ht] at hzero
      refine ⟨row, hm, hid, (Account.agrees_refl row).with_balance balance, ?_⟩
      simp only
      omega
    · cases he

/-- After every run, each account holds what it was opened with and what committed transactions have
added, whatever rows are locked belong to accounts that exist, and an addition that succeeds now
answers with the committed balance, what its transaction has added before, and the new amount. -/
theorem Run.balances_exact {h : List Event} {T : Traffic} (run : Run h T) :
    ((openings h).map Account.id).Nodup ∧
    (∀ a ∈ T.store.tables.accounts, ∃ opening ∈ openings h, opening.id = a.id ∧
      a.balance.toInt = opening.balance.toInt + published h a.id) ∧
    (∀ tx ∈ T.store.transactions, ∀ row ∈ tx.rows, ∃ a ∈ T.store.tables.accounts, a.id = row.id) ∧
    ∀ (t : Nat) (id : Int) (amount : Amount) (a : Account) (T' : Traffic),
      Step T [.answered (.addBalance t id amount) (.ok a)] T' →
      ∃ c ∈ T.store.tables.accounts, c.id = id ∧
        a.balance.toInt = c.balance.toInt + added h t id + amount.toInt := by
  have o := run.orderly
  have i := run.accounted
  refine ⟨i.openings_nodup, i.balance, ?_, ?_⟩
  · intro tx htx row hrow
    obtain ⟨a, ha, hagrees⟩ := (o.rows_locked tx htx row hrow).2
    exact ⟨a, ha, hagrees.id_eq.symm⟩
  · intro t id amount a T' step
    rcases step.effects with effect | ⟨T₁, queued, effect⟩
    · obtain ⟨c, hc, hid, _, hsum⟩ := effect.answer_of_add o i
      exact ⟨c, hc, hid, hsum⟩
    · obtain ⟨c, hc, hid, _, hsum⟩ := effect.answer_of_add (queued.orderly o) (queued.accounted o i)
      rw [queued.keeps.tables] at hc
      exact ⟨c, hc, hid, hsum⟩

theorem Run.balances_exact_of_queued :
    ∃ (h : List Event) (T : Traffic), Run h T ∧ published h 1 = -25 ∧
    ∃ a ∈ T.store.tables.accounts, a.id = 1 ∧ a.balance.toInt = 100 + published h 1 := by
  have run := Run.start.call .epoch (.createUser ⟨"ada", "", "", ""⟩) (by decide) rfl
  have run := run.call .epoch (.createAccount ⟨"ada", .usd, 100⟩) (by decide) rfl
  have run := run.call .epoch .begin (by decide) rfl
  have run := run.call .epoch .begin (by decide) rfl
  have run := run.call .epoch (.addBalance 1 1 5) (by decide) rfl
  -- The second transaction waits for the row until the first has committed.
  have run := run.step (@Step.wait _ _ [] [] .epoch ⟨⟨2, 1⟩, .add (-30)⟩ (by decide) rfl)
  have run := run.call .epoch (.commit 1) (by decide) rfl
  have run := run.step (@Step.resume _ _ [] [] .epoch ⟨⟨2, 1⟩, .add (-30)⟩ _ rfl)
  have run := run.call .epoch (.commit 2) (by decide) rfl
  refine ⟨_, _, run, rfl, ?_⟩
  obtain ⟨opening, hopening, hid, hbalance⟩ := run.balances_exact.2.1 _ (List.mem_singleton_self _)
  refine ⟨_, List.mem_singleton_self _, rfl, ?_⟩
  rw [hbalance]
  cases List.mem_singleton.mp hopening
  rfl

end Traffic
end Giro
