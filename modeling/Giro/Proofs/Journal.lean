import Giro.Proofs.Balance
import Giro.Proofs.Consistency
import Giro.Proofs.Isolation
import Giro.Proofs.References

/-!
# What is written stays written

Entries and transfers are the records that a store keeps for good. Here they are held against the
history, in which every record appears as it was answered when it was staged. The tables show what
the commits found staged and nothing else (`Journaled`), numbers are never given out twice, and so a
record reads the same at every later moment, and an account keeps its owner, its currency and its
date for as long as it is there: `Run.append_only`.
-/

namespace Giro

open scoped List

/-- A row that is written once. -/
inductive Record where
  | entry (e : Entry)
  | transfer (f : Transfer)

def records (entries : List Entry) (transfers : List Transfer) : List Record :=
  entries.map .entry ++ transfers.map .transfer

def Tables.records (t : Tables) : List Record := Giro.records t.entries t.transfers

def Transaction.records (tx : Transaction) : List Record := Giro.records tx.entries tx.transfers

/-- A commit adds what is staged. -/
theorem Store.perm_publish_records (s : Store) (tx : Transaction) :
    (s.publish tx).tables.records ~ tx.records ++ s.tables.records := by
  have entries := (@Table.perm_insertAll _ Entry.id tx.entries s.tables.entries).map Record.entry
  have transfers :=
    (@Table.perm_insertAll _ Transfer.id tx.transfers s.tables.transfers).map Record.transfer
  rw [List.map_append] at entries transfers
  refine (entries.append transfers).trans ?_
  simp only [Transaction.records, Tables.records, records, List.append_assoc]
  refine List.Perm.append_left _ ?_
  rw [← List.append_assoc, ← List.append_assoc]
  exact List.perm_append_comm.append_right _

/-- A store gives the record back under its number. -/
def Record.Reads (s : Store) : Record → Prop
  | .entry e => s.getEntry e.id = .ok e
  | .transfer f => s.getTransfer f.id = .ok f

/-- What an open transaction has staged. -/
def Store.staged (s : Store) (ticket : Nat) : List Record :=
  match s.transaction? ticket with
  | some tx => tx.records
  | none => []

/-- What numbers are given out for. -/
inductive Sequence where
  | account
  | entry
  | transfer
  deriving DecidableEq

def Issued.last (i : Issued) : Sequence → Nat
  | .account => i.account
  | .entry => i.entry
  | .transfer => i.transfer

/-- The number that a call gave out. -/
def Event.number? : Event → Option (Sequence × Int)
  | .answered (.createAccount _) (.ok a) => some (.account, a.id)
  | .answered (.stageEntry _ _ _) (.ok e) => some (.entry, e.id)
  | .answered (.stageTransfer _ _ _ _) (.ok f) => some (.transfer, f.id)
  | _ => none

/-- The record that a call answered, with the transaction that staged it. -/
def Event.record? : Event → Option (Nat × Record)
  | .answered (.stageEntry ticket _ _) (.ok e) => some (ticket, .entry e)
  | .answered (.stageTransfer ticket _ _ _) (.ok f) => some (ticket, .transfer f)
  | _ => none

namespace History

def numbers (h : List Event) : List (Sequence × Int) := h.filterMap Event.number?

def stagings (h : List Event) : List (Nat × Record) := h.filterMap Event.record?

/-- The records that the calls to one transaction have answered. -/
def stagedBy (ticket : Nat) (h : List Event) : List Record :=
  ((stagings h).filter fun x => x.1 = ticket).map Prod.snd

/-- The records that the commits of a history have found staged. -/
def posted : List Event → List Record
  | [] => []
  | e :: h =>
    match e.committed? with
    | some ticket => stagedBy ticket h ++ posted h
    | none => posted h

variable {h es : List Event} {e : Event} {t : Nat}

theorem posted_cons_none (he : e.committed? = none) : posted (e :: h) = posted h := by
  simp [posted, he]

@[simp] theorem posted_committed : posted (.committed t :: h) = stagedBy t h ++ posted h := rfl

theorem posted_append_none (he : ∀ e ∈ es, e.committed? = none) : posted (es ++ h) = posted h := by
  induction es with
  | nil => rfl
  | cons e es ih =>
    rw [List.cons_append, posted_cons_none (he e List.mem_cons_self)]
    exact ih fun x hx => he x (List.mem_cons_of_mem e hx)

theorem posted_subset_append : posted h ⊆ posted (es ++ h) := by
  induction es with
  | nil => exact fun _ hr => hr
  | cons e es ih =>
    rw [List.cons_append, posted]
    split
    · exact fun _ hr => List.mem_append_right _ (ih hr)
    · exact ih

theorem stagedBy_cons_none (he : e.record? = none) : stagedBy t (e :: h) = stagedBy t h := by
  unfold stagedBy stagings
  rw [List.filterMap_cons_none he]

theorem stagedBy_cons_self {r : Record} (he : e.record? = some (t, r)) :
    stagedBy t (e :: h) = r :: stagedBy t h := by
  simp [stagedBy, stagings, List.filterMap_cons_some he]

theorem stagedBy_cons_other {r : Record} {t' : Nat} (he : e.record? = some (t', r)) (hne : t' ≠ t) :
    stagedBy t (e :: h) = stagedBy t h := by
  simp [stagedBy, stagings, List.filterMap_cons_some he, hne]

theorem stagedBy_eq_nil (ht : ∀ x ∈ stagings h, x.1 ≠ t) : stagedBy t h = [] := by
  unfold stagedBy
  rw [List.filter_eq_nil_iff.mpr fun x hx => by simpa using ht x hx]
  rfl

/-- An event that gives nothing out, stages nothing, opens nothing and commits nothing. -/
structure Plain (e : Event) : Prop where
  number : e.number? = none
  record : e.record? = none
  opened : e.opened? = none
  committed : e.committed? = none

theorem plain_error {c : Call} {e : StoreError} : Plain (.answered c (.error e)) := by
  cases c <;> exact ⟨rfl, rfl, rfl, rfl⟩

theorem plain_of_isQuiet (he : e.IsQuiet) : Plain e := by
  cases e with
  | dropped t => exact False.elim he
  | answered c answer =>
    rcases he with hc | ⟨e, rfl⟩
    · cases c with
      | createAccount | stageEntry | stageTransfer | commit => cases hc
      | _ => exact ⟨rfl, rfl, rfl, rfl⟩
    · exact plain_error

theorem plain_addBalance {t : Nat} {id : Int} {amount : Amount}
    {answer : Except StoreError Account} : Plain (.answered (.addBalance t id amount) answer) :=
  ⟨rfl, rfl, rfl, rfl⟩

theorem plain_deleteAccount {id : Int} {answer : Except StoreError Unit} :
    Plain (.answered (.deleteAccount id) answer) :=
  ⟨rfl, rfl, rfl, rfl⟩

end History

theorem Store.getAccount_eq_ok_iff {s : Store} {id : Int} {a : Account} :
    s.getAccount id = .ok a ↔ s.tables.account? id = some a := by
  unfold Store.getAccount
  split <;> simp_all

theorem Transaction.publish_agrees (tx : Transaction) (a : Account) : (tx.publish a).Agrees a := by
  unfold publish
  split <;> rfl

theorem Account.Agrees.trans {a b c : Account} (h : a.Agrees b) (h' : b.Agrees c) :
    a.Agrees c := by
  rw [h.eq, h'.eq]
  rfl

namespace Traffic

open History

/-- The records of a store, and the numbers it has given out, agree with its history. -/
structure Journaled (h : List Event) (s : Store) : Prop where
  posted : s.tables.records ~ posted h
  staged : ∀ tx ∈ s.transactions, tx.records ~ stagedBy tx.ticket h
  stagings_issued : ∀ x ∈ stagings h, x.1 ≤ s.issued.ticket
  opened : ∀ a ∈ s.tables.accounts, ∃ opening ∈ openings h, a.Agrees opening
  numbers_nodup : (numbers h).Nodup
  numbers_issued : ∀ x ∈ numbers h, x.2 ≤ s.issued.last x.1

theorem journaled_empty : Journaled [] .empty := by
  constructor <;> simp [Store.empty, Tables.records, records, History.posted, stagings, numbers]

namespace Journaled

variable {h : List Event} {s s' : Store} {ws : List Waiting} {e : Event} {t : Nat}
    (j : Journaled h s)
include j

theorem cons (he : Plain e) : Journaled (e :: h) s where
  posted := by
    rw [posted_cons_none he.committed]
    exact j.posted
  staged tx htx := by
    rw [stagedBy_cons_none he.record]
    exact j.staged tx htx
  stagings_issued := by
    rw [stagings, List.filterMap_cons_none he.record]
    exact j.stagings_issued
  opened := by
    rw [openings, List.filterMap_cons_none he.opened]
    exact j.opened
  numbers_nodup := by
    rw [numbers, List.filterMap_cons_none he.number]
    exact j.numbers_nodup
  numbers_issued := by
    rw [numbers, List.filterMap_cons_none he.number]
    exact j.numbers_issued

/-- Balances may change, accounts may go, and transactions may begin and end. -/
theorem of_rows (hrecords : s'.tables.records = s.tables.records)
    (haccounts : ∀ a ∈ s'.tables.accounts, ∃ b ∈ s.tables.accounts, a.Agrees b)
    (hlast : s'.issued.last = s.issued.last) (hticket : s.issued.ticket ≤ s'.issued.ticket)
    (htransactions : ∀ tx' ∈ s'.transactions,
      (∃ tx ∈ s.transactions, tx.ticket = tx'.ticket ∧ tx.records = tx'.records) ∨
      (tx'.records = [] ∧ s.issued.ticket < tx'.ticket)) : Journaled h s' where
  posted := hrecords ▸ j.posted
  staged tx' htx' := by
    rcases htransactions tx' htx' with ⟨tx, htx, ht, hsame⟩ | ⟨hnil, hfresh⟩
    · rw [← ht, ← hsame]
      exact j.staged tx htx
    · rw [hnil, stagedBy_eq_nil]
      intro x hx
      have := j.stagings_issued x hx
      omega
  stagings_issued x hx := Nat.le_trans (j.stagings_issued x hx) hticket
  opened a ha := by
    obtain ⟨b, hb, hagrees⟩ := haccounts a ha
    obtain ⟨opening, hopening, hb⟩ := j.opened b hb
    exact ⟨opening, hopening, hagrees.trans hb⟩
  numbers_nodup := j.numbers_nodup
  numbers_issued := by
    rw [hlast]
    exact j.numbers_issued

theorem update_rows {f : Transaction → Transaction} (ticket_f : ∀ tx, (f tx).ticket = tx.ticket)
    (records_f : ∀ tx, (f tx).records = tx.records) : Journaled h (s.update t f) := by
  refine j.of_rows rfl (fun a ha => ⟨a, ha, a.agrees_refl⟩) rfl (Nat.le_refl _) ?_
  intro tx htx
  rcases Store.mem_update.mp htx with ⟨old, hold, _, rfl⟩ | ⟨htx, _⟩
  · exact Or.inl ⟨old, hold, (ticket_f old).symm, (records_f old).symm⟩
  · exact Or.inl ⟨tx, htx, rfl, rfl⟩

/-- The next number has not been given out. -/
theorem nodup_next {q : Sequence} {n : Int} (hn : s.issued.last q < n) :
    ((q, n) :: numbers h).Nodup := by
  refine List.nodup_cons.mpr ⟨fun hmem => ?_, j.numbers_nodup⟩
  have := j.numbers_issued _ hmem
  simp only at this
  omega

/-- An open transaction stages a record, which takes the next number. -/
theorem stage {f : Transaction → Transaction} {r : Record} {q : Sequence} {i : Issued}
    (hticket : i.ticket = s.issued.ticket) (hlast : ∀ q', s.issued.last q' ≤ i.last q')
    (hnext : s.issued.last q < i.last q) (hrecord : e.record? = some (t, r))
    (hnumber : e.number? = some (q, (i.last q : Int))) (hopened : e.opened? = none)
    (hcommitted : e.committed? = none) (hopen : t ≤ s.issued.ticket)
    (ticket_f : ∀ tx, (f tx).ticket = tx.ticket)
    (records_f : ∀ tx, (f tx).records ~ r :: tx.records) :
    Journaled (e :: h) ({ s with issued := i }.update t f) where
  posted := by
    rw [posted_cons_none hcommitted]
    exact j.posted
  staged tx htx := by
    rcases Store.mem_update.mp htx with ⟨old, hold, ht, rfl⟩ | ⟨htx, hne⟩
    · rw [ticket_f, ht, stagedBy_cons_self hrecord, ← ht]
      exact (records_f old).trans ((j.staged old hold).cons r)
    · rw [stagedBy_cons_other hrecord (Ne.symm hne)]
      exact j.staged tx htx
  stagings_issued := by
    rw [stagings, List.filterMap_cons_some hrecord, Store.update_issued, hticket]
    exact List.forall_mem_cons.mpr ⟨hopen, j.stagings_issued⟩
  opened := by
    rw [openings, List.filterMap_cons_none hopened]
    exact j.opened
  numbers_nodup := by
    rw [numbers, List.filterMap_cons_some hnumber]
    exact j.nodup_next (by omega)
  numbers_issued := by
    rw [numbers, List.filterMap_cons_some hnumber, Store.update_issued]
    exact List.forall_mem_cons.mpr ⟨Int.le_refl _, fun x hx =>
      Int.le_trans (j.numbers_issued x hx) (Int.ofNat_le.mpr (hlast x.1))⟩

theorem createAccount {new : NewAccount} {now : Timestamp} {a : Account}
    (hs : s.createAccount new now = .ok (a, s')) :
    Journaled (.answered (.createAccount new) (.ok a) :: h) s' := by
  obtain ⟨_, _, ha, rfl⟩ := Store.createAccount_eq_ok_iff.mp hs
  have hid : a.id = s.issued.account + 1 := by rw [ha]
  exact {
    posted := j.posted
    staged := j.staged
    stagings_issued := j.stagings_issued
    opened := by
      intro b hb
      rcases List.mem_append.mp hb with hb | hb
      · obtain ⟨opening, hopening, hagrees⟩ := j.opened b hb
        exact ⟨opening, List.mem_cons_of_mem a hopening, hagrees⟩
      · rw [List.mem_singleton.mp hb]
        exact ⟨a, List.mem_cons_self, a.agrees_refl⟩
    numbers_nodup := j.nodup_next (q := .account) (n := a.id) (by simp only [Issued.last]; omega)
    numbers_issued := by
      refine List.forall_mem_cons.mpr ⟨by simp only [Issued.last]; omega, fun x hx => ?_⟩
      have := j.numbers_issued x hx
      obtain ⟨q, n⟩ := x
      cases q <;> simp only [Issued.last] at this ⊢ <;> omega }

theorem commit {tx : Transaction} (htx : tx ∈ s.transactions) :
    Journaled (.committed tx.ticket :: h) ((s.publish tx).discard tx.ticket) where
  posted := by
    rw [Store.discard_tables, posted_committed]
    exact (Store.perm_publish_records s tx).trans ((j.staged tx htx).append j.posted)
  staged x hx := j.staged x (List.mem_of_mem_filter hx)
  stagings_issued := j.stagings_issued
  opened a ha := by
    obtain ⟨b, hb, rfl⟩ := List.mem_map.mp ha
    obtain ⟨opening, hopening, hagrees⟩ := j.opened b hb
    exact ⟨opening, hopening, (Transaction.publish_agrees tx b).trans hagrees⟩
  numbers_nodup := j.numbers_nodup
  numbers_issued := j.numbers_issued

end Journaled

theorem Effect.journaled {T T' : Traffic} {h events : List Event} (effect : Effect T events T')
    (o : Orderly T.store T.waiting) (j : Journaled h T.store) :
    Journaled (events ++ h) T'.store := by
  have same {s : Store} : ∀ tx ∈ s.transactions, (∃ tx' ∈ s.transactions,
      tx'.ticket = tx.ticket ∧ tx'.records = tx.records) ∨
      (tx.records = [] ∧ s.issued.ticket < tx.ticket) := fun tx htx => Or.inl ⟨tx, htx, rfl, rfl⟩
  have agree {s : Store} : ∀ a ∈ s.tables.accounts, ∃ b ∈ s.tables.accounts, a.Agrees b :=
    fun a ha => ⟨a, ha, a.agrees_refl⟩
  cases effect with
  | quiet he => exact j.cons (plain_of_isQuiet he)
  | createUser hs =>
    obtain ⟨_, _, _, rfl⟩ := Store.createUser_eq_ok_iff.mp hs
    exact (j.cons ⟨rfl, rfl, rfl, rfl⟩).of_rows rfl agree rfl (Nat.le_refl _) same
  | createSession hs =>
    rw [Store.createSession_eq_ok hs]
    exact (j.cons ⟨rfl, rfl, rfl, rfl⟩).of_rows rfl agree rfl (Nat.le_refl _) same
  | createAccount hs => exact j.createAccount hs
  | @begin s ws =>
    refine (j.cons ⟨rfl, rfl, rfl, rfl⟩).of_rows rfl agree rfl (Nat.le_succ _) ?_
    intro tx htx
    rcases List.mem_append.mp htx with htx | htx
    · exact same tx htx
    · rw [List.mem_singleton.mp htx]
      exact Or.inr ⟨rfl, Nat.lt_succ_self _⟩
  | @stageTransfer s s' ws t source target amount now f hs =>
    obtain ⟨isOpen, _, _, _, rfl, rfl⟩ := Store.stageTransfer_eq_ok_iff.mp hs
    obtain ⟨tx, htx, rfl⟩ := Store.isSome_transaction?_iff.mp isOpen
    refine j.stage (q := .transfer) rfl ?_ (Nat.lt_succ_self _) rfl rfl rfl rfl
      (o.transactions_issued tx htx) (fun _ => rfl) fun tx => ?_
    · rintro (_ | _ | _) <;> simp [Issued.last]
    · simp only [Transaction.records, records, List.map_append, List.map_cons, List.map_nil]
      rw [← List.append_assoc]
      exact List.perm_append_singleton _ _
  | @stageEntry s s' ws t account amount now e hs =>
    obtain ⟨isOpen, _, rfl, rfl⟩ := Store.stageEntry_eq_ok_iff.mp hs
    obtain ⟨tx, htx, rfl⟩ := Store.isSome_transaction?_iff.mp isOpen
    refine j.stage (q := .entry) rfl ?_ (Nat.lt_succ_self _) rfl rfl rfl rfl
      (o.transactions_issued tx htx) (fun _ => rfl) fun tx => ?_
    · rintro (_ | _ | _) <;> simp [Issued.last]
    · simp only [Transaction.records, records, List.map_append, List.map_cons, List.map_nil]
      exact (List.perm_append_singleton _ _).append_right _
  | addStaged free htx hrow hs =>
    obtain ⟨_, _, _, rfl⟩ := Store.addStaged_eq_ok_iff.mp hs
    exact (j.cons plain_addBalance).update_rows (fun _ => rfl) fun _ => rfl
  | queueAdd => exact j.of_rows rfl agree rfl (Nat.le_refl _) same
  | queueDelete =>
    exact j.of_rows rfl agree rfl (Nat.le_succ _) fun tx htx => Or.inl ⟨tx, htx, rfl, rfl⟩
  | @grantAdd s s' before after r amount answer holds hs =>
    have j' : Journaled (.answered (.addBalance r.ticket r.account amount) answer :: h) s :=
      j.cons plain_addBalance
    rcases Store.addGranted_cases hs with ⟨_, rfl, _⟩ | ⟨row, _, ⟨a, ha, _⟩ | ⟨rfl, _⟩⟩
    · exact j'.of_rows rfl agree rfl (Nat.le_refl _) same
    · obtain ⟨_, _, _, rfl⟩ := Store.addStaged_eq_ok_iff.mp ha
      have copied := j'.update_rows (t := r.ticket)
        (f := fun tx => { tx with rows := tx.rows ++ [row] }) (fun _ => rfl) fun _ => rfl
      exact copied.update_rows (fun _ => rfl) fun _ => rfl
    · exact j'.update_rows (fun _ => rfl) fun _ => rfl
  | @grantDelete s s' before after r answer holds hs =>
    have j' : Journaled (.answered (.deleteAccount r.account) answer :: h) s :=
      j.cons plain_deleteAccount
    rcases Store.deleteGranted_cases hs with ⟨rfl, _⟩ | ⟨_, _, _, rfl⟩
    · exact j'.of_rows rfl agree rfl (Nat.le_refl _) same
    · exact j'.of_rows rfl (fun a ha => ⟨a, List.mem_of_mem_filter ha, a.agrees_refl⟩) rfl
        (Nat.le_refl _) same
  | cancel => exact j.of_rows rfl agree rfl (Nat.le_refl _) same
  | discard isOpen free he =>
    refine (j.cons ?_).of_rows rfl agree rfl (Nat.le_refl _)
      fun tx htx => Or.inl ⟨tx, List.mem_of_mem_filter htx, rfl, rfl⟩
    rcases he with rfl | rfl <;> exact ⟨rfl, rfl, rfl, rfl⟩
  | commit free htx =>
    obtain ⟨hmem, rfl⟩ := Store.mem_of_transaction? htx
    exact j.commit hmem

theorem Run.journaled {h : List Event} {T : Traffic} (run : Run h T) : Journaled h T.store :=
  (run.invariant (P := fun h T => Orderly T.store T.waiting ∧ Journaled h T.store)
    ⟨orderly_empty, journaled_empty⟩
    fun ⟨o, j⟩ effect => ⟨effect.orderly o, effect.journaled o j⟩).2

/-! ## From one moment to a later one -/

variable {h es : List Event} {X T T' : Traffic}

theorem Run.along (run : Run h X) (path : Path X es T) : Run (es ++ h) T := by
  induction path with
  | refl => exact run
  | step _ step ih =>
    rw [List.append_assoc]
    exact ih.step step

theorem Path.call {s : Store} {ws : List Waiting} (path : Path X es ⟨s, ws⟩) (now : Timestamp)
    (c : Call) {answer : Except StoreError c.Reply} (admits : Admits ws c)
    (ha : (s.perform now c).2 = .answered answer) :
    Path X (.answered c answer :: es) ⟨(s.perform now c).1, ws⟩ :=
  path.step (.answer admits (Prod.ext rfl ha))

theorem Run.reads (run : Run h T) {r : Record} (hr : r ∈ T.store.tables.records) :
    r.Reads T.store := by
  rcases List.mem_append.mp hr with hr | hr
  · obtain ⟨e, he, rfl⟩ := List.mem_map.mp hr
    simp only [Record.Reads, Store.getEntry, (run.consistent.entries e.id e).mpr ⟨he, rfl⟩]
  · obtain ⟨f, hf, rfl⟩ := List.mem_map.mp hr
    simp only [Record.Reads, Store.getTransfer, (run.consistent.transfers f.id f).mpr ⟨hf, rfl⟩]

theorem Run.perm_staged (run : Run h T) (t : Nat) :
    T.store.staged t ~ if t ∈ T.store.tickets then stagedBy t h else [] := by
  unfold Store.staged
  split
  · rename_i tx htx
    obtain ⟨hmem, rfl⟩ := Store.mem_of_transaction? htx
    have ht : tx.ticket ∈ T.store.tickets := List.mem_map_of_mem hmem
    rw [if_pos ht]
    exact run.journaled.staged tx hmem
  · rename_i hnone
    rw [if_neg]
    rintro ht
    obtain ⟨tx, htx, rfl⟩ := List.mem_map.mp ht
    rw [run.orderly.transaction?_eq_some htx] at hnone
    cases hnone

theorem Effect.keeps_of_error {c : Call} {e : StoreError}
    (effect : Effect T [.answered c (.error e)] T') : Store.Keeps T.store T'.store := by
  generalize hevents : [Event.answered c (.error e)] = events at effect
  cases effect with
  | quiet => exact .refl _
  | grantAdd holds h => exact Store.addGranted_keeps h
  | grantDelete holds h =>
    rcases Store.deleteGranted_cases h with ⟨rfl, _⟩ | ⟨_, _, rfl, _⟩
    · exact ⟨rfl, rfl, rfl⟩
    · cases hevents
  | discard _ _ he => rcases he with rfl | rfl <;> cases hevents
  | queueAdd | queueDelete | cancel | _ => cases hevents

theorem Step.keeps_of_error {c : Call} {e : StoreError}
    (step : Step T [.answered c (.error e)] T') : Store.Keeps T.store T'.store := by
  rcases step.effects with h | ⟨T₁, h₁, h₂⟩
  · exact h.keeps_of_error
  · exact h₁.keeps.trans h₂.keeps_of_error

/-- What holds of two moments of a run, when `h` has happened before the first and `es` between
them. -/
structure AppendOnly (h es : List Event) (T T' : Traffic) : Prop where
  /-- The tables show the records that the commits have found staged. -/
  tables : T'.store.tables.records ~ posted (es ++ h)
  /-- A commit adds what the calls to its transaction have answered. -/
  commit : ∀ t X, Step T' [.committed t] X →
    X.store.tables.records ~ stagedBy t (es ++ h) ++ T'.store.tables.records
  /-- Nothing else adds a record or takes one away. -/
  others : ∀ events X, Step T' events X → (∀ e ∈ events, e.committed? = none) →
    X.store.tables.records ~ T'.store.tables.records
  /-- A call that fails changes no table and nothing that is staged. -/
  failed : ∀ (c : Call) (e : StoreError) (X : Traffic), Step T' [.answered c (.error e)] X →
    X.store.tables = T'.store.tables ∧ ∀ t, X.store.staged t ~ T'.store.staged t
  reads : ∀ r ∈ T.store.tables.records, r.Reads T'.store
  /-- No number of a sequence is given out twice. -/
  numbers : (numbers (es ++ h)).Nodup
  accounts : ∀ id a a', T.store.getAccount id = .ok a → T'.store.getAccount id = .ok a' →
    a'.owner = a.owner ∧ a'.currency = a.currency ∧ a'.createdAt = a.createdAt
  deleted : ∀ id, Event.deleted id ∈ h →
    T'.store.getAccount id = .error (.notFound (.account id))

theorem Journaled.agrees {s s' : Store} (j : Journaled h s) (j' : Journaled (es ++ h) s')
    (openings_nodup : ((openings (es ++ h)).map Account.id).Nodup) {a a' : Account}
    (ha : a ∈ s.tables.accounts) (ha' : a' ∈ s'.tables.accounts) (hid : a.id = a'.id) :
    ∃ opening, a.Agrees opening ∧ a'.Agrees opening := by
  obtain ⟨opening, hopening, hagrees⟩ := j.opened a ha
  obtain ⟨opening', hopening', hagrees'⟩ := j'.opened a' ha'
  have hmem : opening ∈ openings (es ++ h) := by
    rw [openings, List.filterMap_append]
    exact List.mem_append_right _ hopening
  have : opening = opening' := List.inj_on_of_nodup_map openings_nodup hmem hopening'
    (hagrees.id_eq.symm.trans (hid.trans hagrees'.id_eq))
  exact ⟨opening, hagrees, this ▸ hagrees'⟩

/-- In every run, whatever calls are interleaved: records are added by the commit of what was
answered, and by nothing else; they read the same ever after; no number is given out twice; an
account is the same at all times but for its balance, and stays away once it has been deleted. -/
theorem Run.append_only (run : Run h T) (path : Path T es T') : AppendOnly h es T T' := by
  have run' := run.along path
  exact {
    tables := run'.journaled.posted
    commit := by
      intro t X step
      have committed := (run'.step step).journaled.posted
      exact committed.trans (run'.journaled.posted.symm.append_left _)
    others := by
      intro events X step hnone
      have after := (run'.step step).journaled.posted
      rw [posted_append_none hnone] at after
      exact after.trans run'.journaled.posted.symm
    failed := by
      intro c e X step
      have keeps := step.keeps_of_error
      refine ⟨keeps.tables, fun t => ?_⟩
      have after := (run'.step step).perm_staged t
      rw [List.singleton_append, stagedBy_cons_none plain_error.record, keeps.tickets] at after
      exact after.trans (run'.perm_staged t).symm
    reads := by
      intro r hr
      apply run'.reads
      rw [run'.journaled.posted.mem_iff]
      exact posted_subset_append (run.journaled.posted.mem_iff.mp hr)
    numbers := run'.journaled.numbers_nodup
    accounts := by
      intro id a a' ha ha'
      obtain ⟨hmem, hid⟩ := Tables.mem_of_account? (Store.getAccount_eq_ok_iff.mp ha)
      obtain ⟨hmem', hid'⟩ := Tables.mem_of_account? (Store.getAccount_eq_ok_iff.mp ha')
      obtain ⟨opening, hagrees, hagrees'⟩ := run.journaled.agrees run'.journaled
        run'.accounted.openings_nodup hmem hmem' (hid.trans hid'.symm)
      rw [hagrees.eq, hagrees'.eq]
      exact ⟨rfl, rfl, rfl⟩
    deleted := by
      intro id hid
      have gone := (run'.tracked.deleted id (List.mem_append_right es hid)).2
      have hnone : T'.store.tables.account? id = none := Store.Table.find?_eq_none_iff.mpr gone
      simp only [Store.getAccount, hnone] }

theorem Run.append_only_of_rolled_back : ∃ (h es : List Event) (T T' : Traffic), Run h T ∧
    Path T es T' ∧ AppendOnly h es T T' ∧
    T.store.tables.records = [.entry ⟨1, 1, 5, .epoch⟩, .transfer ⟨2, 1, 2, 5, .epoch⟩] ∧
    T'.store.getTransfer 2 = .ok ⟨2, 1, 2, 5, .epoch⟩ ∧
    numbers (es ++ h) = [(.account, 4), (.transfer, 3), (.entry, 1), (.transfer, 2), (.transfer, 1),
      (.account, 3), (.account, 2), (.account, 1)] ∧
    T'.store.getAccount 3 = .error (.notFound (.account 3)) := by
  have run := Run.start.call .epoch (.createUser ⟨"ada", "", "", ""⟩) (by decide) rfl
  have run := run.call .epoch (.createAccount ⟨"ada", .usd, 0⟩) (by decide) rfl
  have run := run.call .epoch (.createAccount ⟨"ada", .eur, 0⟩) (by decide) rfl
  have run := run.call .epoch (.createAccount ⟨"ada", .inr, 0⟩) (by decide) rfl
  have run := run.call .epoch .begin (by decide) rfl
  have run := run.call .epoch .begin (by decide) rfl
  have run := run.call .epoch (.stageTransfer 1 1 2 5) (by decide) rfl
  have run := run.call .epoch (.stageTransfer 2 1 2 5) (by decide) rfl
  -- There is no account 9, so this call fails.
  have run := run.call .epoch (.stageEntry 2 9 5) (by decide) rfl
  have run := run.call .epoch (.stageEntry 2 1 5) (by decide) rfl
  have run := run.call .epoch (.deleteAccount 3) (by decide) rfl
  have run := run.call .epoch (.commit 2) (by decide) rfl
  -- The first transaction gives its transfer up, and the next transfer gets another number.
  have start {es : List Event} {T : Traffic} (path : Path _ es T) :=
    And.intro path (run.append_only path)
  obtain ⟨path, only⟩ := start
    (.call (.call (.call (.call .refl .epoch (.rollback 1) (by decide) rfl)
      .epoch .begin (by decide) rfl) .epoch (.stageTransfer 4 2 1 5) (by decide) rfl)
      .epoch (.createAccount ⟨"ada", .inr, 0⟩) (by decide) rfl)
  refine ⟨_, _, _, _, run, path, only, rfl, ?_, rfl, ?_⟩
  · exact only.reads (.transfer ⟨2, 1, 2, 5, .epoch⟩) (List.mem_cons_of_mem _ List.mem_cons_self)
  · exact only.deleted 3 (List.mem_cons_of_mem _ List.mem_cons_self)

end Traffic
end Giro
