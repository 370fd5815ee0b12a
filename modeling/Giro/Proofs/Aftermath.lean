import Giro.Proofs.Alone
import Giro.Proofs.Authority
import Giro.Proofs.Consistency
import Giro.Proofs.Ledgers
import Giro.Proofs.Privacy

/-!
# What a program leaves behind

A program is tidy if it changes the committed rows only when it succeeds, and then as it should,
and gives back every row that it has locked. If it has to wait and is given up, that is a failure
too. Programs that only read are tidy, a single call that writes is, and so is a transfer in its
transaction: what it has done up to its commit is private to it, and discarded with it.
-/

namespace Giro

open Traffic

namespace Store

/-- The same rows are locked by the same transactions, and the same requests wait. -/
structure SameLocks (s s' : Store) : Prop where
  requests : s'.requests = s.requests
  transactions : s'.transactions = s.transactions

structure Untouched (s s' : Store) : Prop where
  tables : s'.tables = s.tables
  locks : s.SameLocks s'

theorem SameLocks.refl (s : Store) : s.SameLocks s := ⟨rfl, rfl⟩

theorem Untouched.refl (s : Store) : s.Untouched s := ⟨rfl, .refl s⟩

end Store

variable {ε δ α β : Type}

/-- Where a run that started at a store leaves it. -/
inductive Leaves (s : Store) (good : α → Store → Prop) :
    Store × Outcome (Except ε α) → Prop where
  | success {s' : Store} {a : α} (holds : good a s') (locks : s.SameLocks s') :
      Leaves s good (s', .finished (.ok a))
  | failure {s' : Store} {e : ε} (same : s.Untouched s') : Leaves s good (s', .finished (.error e))
  | overflow {s' : Store} {why : Overflow} (same : s.Untouched s') :
      Leaves s good (s', .overflow why)
  | blocked {s' : Store} {rest : Task (Except ε α)}
      (same : s.Untouched (Backend.memory.cancel rest s')) : Leaves s good (s', .blocked rest)

/-- A program that changes a store only when it succeeds, and then as `good` says. -/
def Tidy (good : Store → α → Store → Prop) (p : Program (Except ε α)) : Prop :=
  ∀ ⦃history : List Event⦄ ⦃s : Store⦄ ⦃ws : List Waiting⦄, Run history ⟨s, ws⟩ →
    ∀ now : Timestamp, Leaves s (good s) (Backend.memory.run now p [] s)

namespace Tidy

variable {good : Store → α → Store → Prop} {good' : Store → β → Store → Prop}

theorem map {p : Program (Except ε α)} (f : Except ε α → Except δ β) (h : Tidy good p)
    (error : ∀ e, ∃ e', f (.error e) = .error e')
    (ok : ∀ s a s', good s a s' → ∃ b, f (.ok a) = .ok b ∧ good' s b s') :
    Tidy good' (p.bind fun r => .done (f r)) := by
  intro history s ws run now
  rw [Backend.run_map]
  have leaves := h run now
  rcases hrun : Backend.memory.run now p [] s with ⟨s', r | why | rest⟩
  · rw [hrun] at leaves
    cases leaves with
    | success hgood locks =>
      obtain ⟨b, hf, hgood'⟩ := ok _ _ _ hgood
      simp only [Outcome.map, hf]
      exact .success hgood' locks
    | @failure _ e same =>
      obtain ⟨e', hf⟩ := error e
      simp only [Outcome.map, hf]
      exact .failure same
  · rw [hrun] at leaves
    cases leaves with
    | overflow same => exact .overflow same
  · rw [hrun] at leaves
    cases leaves with
    | blocked same => exact .blocked same

theorem of_eq {p q : Program (Except ε α)} (h : Tidy good q) (heq : p = q) : Tidy good p :=
  heq ▸ h

theorem mono {p : Program (Except ε α)} {good' : Store → α → Store → Prop} (h : Tidy good p)
    (le : ∀ s a s', good s a s' → good' s a s') : Tidy good' p := by
  intro history s ws run now
  have leaves := h run now
  generalize Backend.memory.run now p [] s = result at leaves
  cases leaves with
  | success hgood locks => exact .success (le _ _ _ hgood) locks
  | failure same => exact .failure same
  | overflow same => exact .overflow same
  | blocked same => exact .blocked same

/-! ### The parts of an attempt -/

theorem error (e : ε) : Tidy good (.done (.error e)) :=
  fun _ s _ _ _ => .failure (.refl s)

theorem ok {a : α} (h : ∀ s, good s a s) : Tidy good (.done (.ok a) : Program (Except ε α)) :=
  fun _ s _ _ _ => .success (h s) (.refl s)

theorem overflow (why : Overflow) : Tidy good (.overflow why : Program (Except ε α)) :=
  fun _ s _ _ _ => .overflow (.refl s)

theorem mapError {a : Attempt ε α} (f : ε → δ) (h : Tidy good a.run) :
    Tidy good (Attempt.mapError f a).run :=
  h.map _ (fun e => ⟨f e, rfl⟩) fun _ a _ hgood => ⟨a, rfl, hgood⟩

theorem map_run {a : Attempt ε α} (f : α → β) (h : Tidy good a.run)
    (le : ∀ s a s', good s a s' → good' s (f a) s') :
    Tidy good' (a >>= fun x => pure (f x)).run := by
  have hmap : Tidy good' (a.run.bind fun r => .done (r.map f)) :=
    h.map _ (fun e => ⟨e, rfl⟩) fun s a s' hgood => ⟨f a, rfl, le s a s' hgood⟩
  exact hmap.of_eq (Attempt.run_bind_pure f a)

theorem demand {r : Except ε α} {g : ε → δ} {f : α → Attempt δ β}
    (h : ∀ a, r = .ok a → Tidy good' (f a).run) :
    Tidy good' (Attempt.demand (r.mapError g) >>= f).run := by
  cases r with
  | ok a => exact h a rfl
  | error e => exact .error _

theorem compute {r : Except Overflow α} {f : α → Attempt ε β} (h : ∀ a, Tidy good' (f a).run) :
    Tidy good' (Attempt.compute r >>= f).run := by
  cases r with
  | ok a => exact h a
  | error why => exact .overflow why

/-- Reading changes nothing and never waits. -/
theorem read {c : Call} {g : StoreError → ε} {f : c.Reply → Attempt ε β} (reads : c.isRead)
    (h : ∀ a, Tidy good' (f a).run) :
    Tidy good' (Attempt.mapError g (Attempt.call c) >>= f).run := by
  intro history s ws run now
  obtain ⟨answer, hp⟩ : ∃ answer, s.perform now c = (s, .answered answer) := by
    cases c <;> first | exact ⟨_, rfl⟩ | cases reads
  rw [Backend.run_read reads hp]
  cases answer with
  | ok a => exact h a run now
  | error e => exact .failure (.refl s)

theorem guard {p : Prop} [Decidable p] {e : ε} {f : α → Attempt ε β} {a : Attempt ε β}
    (h : ¬ p → Tidy good' a.run) : Tidy good' (if p then throw e >>= f else a).run := by
  by_cases hp : p
  · rw [if_pos hp]
    exact .error _
  · rw [if_neg hp]
    exact h hp

end Tidy

/-! ## Single calls -/

/-- A call that writes at once, or says why it does not. -/
theorem tidy_of_settle {c : Call} {good : Store → c.Reply → Store → Prop}
    {op : Store → Timestamp → Except StoreError (c.Reply × Store)}
    (perform : ∀ (s : Store) now, s.perform now c = s.settle (op s now))
    (track : ∀ answer, c.track answer [] = [])
    (ok : ∀ s ws now a s', Orderly s ws → op s now = .ok (a, s') → good s a s' ∧ s.SameLocks s') :
    Tidy good (Attempt.call c).run := by
  intro history s ws run now
  have hperform : Backend.memory.perform now c s = s.settle (op s now) := perform s now
  change Leaves s (good s) (Backend.memory.run now (.ask c .done) [] s)
  simp only [Backend.run, hperform]
  cases h : op s now with
  | ok p =>
    obtain ⟨hgood, locks⟩ := ok s ws now p.1 p.2 run.orderly h
    simp only [Store.settle, track]
    exact .success hgood locks
  | error e =>
    simp only [Store.settle, track]
    exact .failure (.refl s)

theorem tidy_createUser (new : NewUser) : Tidy
    (fun s u s' => s.tables.user? u.username = none ∧
      s'.tables = { s.tables with users := s.tables.users ++ [u] })
    (Attempt.call (.createUser new)).run := by
  refine tidy_of_settle (c := .createUser new) (fun _ _ => rfl) (fun _ => rfl) ?_
  intro s ws now u s' _ h
  obtain ⟨fresh, _, rfl, rfl⟩ := Store.createUser_eq_ok_iff.mp h
  exact ⟨⟨fresh, rfl⟩, rfl, rfl⟩

theorem tidy_createSession (new : NewSession) : Tidy
    (fun s x s' => s.tables.session? x.id = none ∧
      s'.tables = { s.tables with sessions := s.tables.sessions ++ [x] })
    (Attempt.call (.createSession new)).run := by
  refine tidy_of_settle (c := .createSession new) (fun _ _ => rfl) (fun _ => rfl) ?_
  intro s ws now x s' _ h
  obtain ⟨_, fresh, rfl, rfl⟩ := Store.createSession_eq_ok_iff.mp h
  exact ⟨⟨fresh, rfl⟩, rfl, rfl⟩

theorem tidy_createAccount (new : NewAccount) : Tidy
    (fun s a s' => s.tables.account? a.id = none ∧
      s'.tables = { s.tables with accounts := s.tables.accounts ++ [a] })
    (Attempt.call (.createAccount new)).run := by
  refine tidy_of_settle (c := .createAccount new) (fun _ _ => rfl) (fun _ => rfl) ?_
  intro s ws now a s' ord h
  obtain ⟨_, _, ha, rfl⟩ := Store.createAccount_eq_ok_iff.mp h
  refine ⟨⟨Store.Table.find?_eq_none_iff.mpr fun b hb hid => ?_, rfl⟩, rfl, rfl⟩
  have := (ord.accounts_issued b hb).2
  rw [hid, ha] at this
  simp only at this
  omega

namespace Traffic.Orderly

variable {s : Store} {ws : List Waiting} (ord : Orderly s ws)
include ord

/-- A request with a new ticket leaves no trace once it is withdrawn. -/
theorem erase_drawn (id : Int) :
    (s.requests ++ [(⟨s.draw.1, id⟩ : LockRequest)]).erase ⟨s.draw.1, id⟩ = s.requests := by
  have hnew : (⟨s.draw.1, id⟩ : LockRequest) ∉ s.requests := by
    intro hr
    have := (ord.requests_issued _ hr).1
    simp only [Store.draw] at this
    omega
  rw [List.erase_append_right _ hnew]
  simp

end Traffic.Orderly

theorem tidy_deleteAccount (id : Int) : Tidy
    (fun s (_ : Unit) s' => ∃ a, s.tables.account? id = some a ∧
      s'.tables = { s.tables with accounts := s.tables.accounts.filter fun b => b.id ≠ a.id })
    (Attempt.call (.deleteAccount id)).run := by
  intro history s ws run now
  change Leaves s _ (Backend.memory.run now (.ask (.deleteAccount id) .done) [] s)
  have herase := run.orderly.erase_drawn id
  rcases h : s.deleteAccount id with ⟨s', status⟩
  have hperform : Backend.memory.perform now (.deleteAccount id) s = (s', status) := h
  simp only [Backend.run, hperform]
  cases Store.deleteAccount_outcome h with
  | refused e => exact .failure (.refl s)
  | @granted _ answer hl holds hg =>
    rcases Store.deleteGranted_cases hg with ⟨rfl, e, rfl⟩ | ⟨exists_account, _, rfl, rfl⟩
    · exact .failure ⟨rfl, herase, rfl⟩
    · obtain ⟨a, ha⟩ := Option.isSome_iff_exists.mp exists_account
      have hid := (Tables.mem_of_account? ha).2
      refine .success ⟨a, ha, ?_⟩ ⟨herase, rfl⟩
      rw [hid]
      rfl
  | queued hl behind => exact .blocked ⟨rfl, herase, rfl⟩

/-! ## A transfer -/

namespace Store.Counted

variable {s : Store} {tx : Transaction} (counted : s.Counted) (htx : tx ∈ s.transactions)
include counted htx

theorem nodup_entries : ((s.tables.entries ++ tx.entries).map Entry.id).Nodup := by
  have staged := List.sublist_flatten_of_mem (List.mem_map_of_mem (f := Transaction.entries) htx)
  exact counted.entries.nodup.sublist ((staged.append_left _).map _)

theorem nodup_transfers : ((s.tables.transfers ++ tx.transfers).map Transfer.id).Nodup := by
  have staged := List.sublist_flatten_of_mem (List.mem_map_of_mem (f := Transaction.transfers) htx)
  exact counted.transfers.nodup.sublist ((staged.append_left _).map _)

end Store.Counted

/-- The rows of a transfer have ids that no row has. -/
structure Posted.IsNew (p : Posted) (t : Tables) : Prop where
  transfer : ∀ f ∈ t.transfers, f.id ≠ p.transfer.id
  debit : ∀ e ∈ t.entries, e.id ≠ p.debit.id
  credit : ∀ e ∈ t.entries, e.id ≠ p.credit.id
  entries : p.debit.id ≠ p.credit.id

def Receipt.IsNew (r : Receipt) (t : Tables) : Prop := ∀ p, r = .posted p → p.IsNew t

namespace Stage

variable {o : TransferOrder} {u s s' : Store} {ws : List Waiting} {now : Timestamp} {st : Stage}

theorem call_ticket? {t : Nat} (h : st.ticket? = some t) : (st.call o).ticket? = some t := by
  cases st <;> cases h <;> rfl

/-- A transfer that goes on has begun, or stays in its transaction without a commit. -/
theorem next_cases {st' : Stage} {answer : Except StoreError (st.call o).Reply}
    (hnext : st.next o answer = .inl st') :
    (∃ t, st = .fresh ∧ st' = .begun t ∧ HEq answer (.ok t : Except StoreError Nat)) ∨
      ∃ t, st.ticket? = some t ∧ st'.ticket? = some t ∧ st.call o ≠ .commit t := by
  cases st with
  | fresh =>
    cases answer with
    | ok t =>
      cases hnext
      exact Or.inl ⟨t, rfl, rfl, HEq.rfl⟩
    | error e => cases hnext
  | begun t | recorded t f | debited t f d | credited t f d c | half t f d c a =>
    right
    cases answer <;> cases hnext <;> exact ⟨t, rfl, rfl, by simp [call]⟩
  | full t f d c a b => cases answer <;> cases hnext
  | failed t cause => cases answer <;> cases hnext

/-- Once the transaction is discarded, nothing of it is left. -/
theorem untouched_discard (ord : Orderly u ws) (h : Store.Private u.begin.1 u.begin.2 s) :
    u.Untouched (s.discard u.begin.1) := by
  have others : ∀ tx ∈ u.transactions, tx.ticket ≠ u.begin.1 := by
    intro tx htx ht
    have := ord.transactions_issued tx htx
    simp only [Store.begin, Store.draw] at ht
    omega
  have requests : ∀ r ∈ u.requests, r.ticket ≠ u.begin.1 := by
    intro r hr ht
    have := (ord.requests_issued r hr).1
    simp only [Store.begin, Store.draw] at ht
    omega
  refine ⟨h.tables, ?_, ?_⟩
  · rw [Store.discard_requests, h.requests]
    exact List.filter_eq_self.mpr fun r hr => by simpa using requests r hr
  · rw [Store.discard_transactions, h.transactions]
    have : u.begin.2.transactions = u.transactions ++ [{ ticket := u.begin.1 }] := rfl
    rw [this, List.filter_append,
      List.filter_eq_self.mpr fun tx htx => by simpa using others tx htx]
    simp

/-- A transfer has come to a stage, and all that it has done is private to its transaction. -/
structure Apart (o : TransferOrder) (u : Store) (ws : List Waiting) (st : Stage) (s : Store) :
    Prop where
  start : Orderly u ws
  reached : ∃ history, Run history ⟨s, ws⟩
  stands : st.Stands o s
  unbegun : st.ticket? = none → s = u
  begun : ∀ t, st.ticket? = some t → t = u.begin.1 ∧ Store.Private t u.begin.2 s

namespace Apart

theorem fresh {history : List Event} (run : Run history ⟨u, ws⟩) : Apart o u ws .fresh u :=
  ⟨run.orderly, ⟨history, run⟩, trivial, fun _ => rfl, nofun⟩

variable (apart : Apart o u ws st s)
include apart

theorem orderly : Orderly s ws :=
  let ⟨_, run⟩ := apart.reached
  run.orderly

/-- Nobody else knows the ticket. -/
theorem admits : Admits ws (st.call o) := by
  intro w hw hticket
  cases ht : st.ticket? with
  | none =>
    cases st with
    | fresh => cases hticket
    | _ => cases ht
  | some t =>
    rw [call_ticket? ht, (apart.begun t ht).1] at hticket
    have := (apart.start.requests_issued _ (apart.start.waiting_queued w hw)).1
    simp only [Store.begin, Store.draw, Option.some.injEq] at hticket
    omega

theorem tables : s.tables = u.tables := by
  cases ht : st.ticket? with
  | none => rw [apart.unbegun ht]
  | some t => exact (apart.begun t ht).2.tables

theorem issued : s.issued.account = u.issued.account := by
  cases ht : st.ticket? with
  | none => rw [apart.unbegun ht]
  | some t => exact (apart.begun t ht).2.account

variable {answer : Except StoreError (st.call o).Reply}
    (h : s.perform now (st.call o) = (s', .answered answer))
include h

theorem leads (check : o.check = .ok ()) : Leads o st s s' (st.next o answer) :=
  apart.stands.answered (w := none) check apart.orderly (fun r hr => by cases hr) h

theorem next {st' : Stage} (check : o.check = .ok ()) (hnext : st.next o answer = .inl st') :
    Apart o u ws st' s' := by
  have leads := apart.leads h check
  rw [hnext] at leads
  obtain ⟨history, run⟩ := apart.reached
  cases leads with
  | on stands _ _ _ =>
    refine ⟨apart.start, ⟨_, run.step (.answer apart.admits h)⟩, stands, ?_, ?_⟩
    · rcases next_cases hnext with ⟨t, _, rfl, _⟩ | ⟨t, _, ht, _⟩
      · exact nofun
      · rw [ht]
        exact nofun
    · intro t' ht'
      rcases next_cases hnext with ⟨t, rfl, rfl, _⟩ | ⟨t, ht, ht₁, uncommitted⟩
      · cases apart.unbegun rfl
        cases answer with
        | error e => cases hnext
        | ok t₁ =>
          cases h
          cases hnext
          cases ht'
          exact ⟨rfl, .refl _ _⟩
      · cases ht₁.symm.trans ht'
        obtain ⟨rfl, hprivate⟩ := apart.begun _ ht
        exact ⟨rfl, hprivate.trans (Store.private_perform (call_ticket? ht) uncommitted h)⟩

/-- The end of a transfer is the end of its transaction. -/
theorem ended {result : Except StoreError Receipt} (hnext : st.next o answer = .inr result) :
    u.SameLocks s' := by
  cases st with
  | fresh =>
    cases h
    cases hnext
  | begun t | recorded t f | debited t f d | credited t f d c | half t f d c a =>
    cases answer <;> cases hnext
  | full t f d c a b =>
    obtain ⟨rfl, hprivate⟩ := apart.begun t rfl
    have hcommit := Store.commit_eq_ok_iff.mpr
      ⟨_, apart.orderly.transaction?_eq_some apart.stands.1, rfl⟩
    change s.settle ((s.commit u.begin.1).map fun next => ((), next)) = (s', .answered answer) at h
    rw [show s.commit u.begin.1 = _ from hcommit] at h
    cases h
    have same := (untouched_discard apart.start hprivate).locks
    exact ⟨same.requests, same.transactions⟩
  | failed t cause =>
    obtain ⟨rfl, hprivate⟩ := apart.begun t rfl
    have hrollback := Store.rollback_eq_ok_iff.mpr
      ⟨Store.isSome_transaction?_iff.mpr apart.stands, rfl⟩
    change s.settle ((s.rollback u.begin.1).map fun next => ((), next)) =
      (s', .answered answer) at h
    rw [hrollback] at h
    cases h
    exact (untouched_discard apart.start hprivate).locks

omit h in
/-- A transfer that waits and is given up leaves nothing. -/
theorem cancelled {r : LockRequest} (h : s.perform now (st.call o) = (s', .waiting r))
    (program : Program (Except StoreError Receipt)) :
    u.Untouched (Backend.memory.cancel ⟨program, some r, st.ticket?.toList⟩ s') := by
  obtain ⟨⟨v, hr, hcall⟩, _⟩ := exists_waiting_of_perform h
  cases ht : st.ticket? with
  | none =>
    cases st with
    | fresh => cases h
    | _ => cases ht
  | some t =>
    have hticket := call_ticket? (o := o) ht
    obtain ⟨rfl, hprivate⟩ := apart.begun t ht
    have uncommitted : st.call o ≠ .commit u.begin.1 := by
      rw [← hcall]
      obtain ⟨q, purpose⟩ := v
      cases purpose <;> exact nofun
    have own : r.ticket = u.begin.1 := by
      rw [← hcall] at hticket
      rw [← hr]
      obtain ⟨q, purpose⟩ := v
      cases purpose with
      | add amount => exact Option.some.inj hticket
      | delete => cases hticket
    have hprivate := (hprivate.trans (Store.private_perform hticket uncommitted h)).trans
      (Store.private_withdraw own)
    exact untouched_discard apart.start hprivate

omit h in
/-- Ids are given out once, so what is about to be committed has new ones. -/
theorem isNew {answer : Except StoreError (st.call o).Reply} {r : Receipt}
    (hnext : st.next o answer = .inr (.ok r)) : r.IsNew u.tables := by
  cases st with
  | full t f d c a b =>
    cases answer with
    | error e => cases hnext
    | ok _ =>
      cases hnext
      obtain ⟨history, run⟩ := apart.reached
      have entries := run.counted.nodup_entries apart.stands.1
      have transfers := run.counted.nodup_transfers apart.stands.1
      rw [apart.tables, List.map_append, List.nodup_append] at entries transfers
      rintro p ⟨rfl⟩
      have drafted : [d.id, c.id].Nodup := entries.2.1
      have different : d.id ≠ c.id := by simpa using drafted
      refine ⟨fun g hg => ?_, fun e he => ?_, fun e he => ?_, different⟩
      · exact transfers.2.2 _ (List.mem_map_of_mem hg) f.id List.mem_cons_self
      · exact entries.2.2 _ (List.mem_map_of_mem he) d.id List.mem_cons_self
      · exact entries.2.2 _ (List.mem_map_of_mem he) c.id
          (List.mem_cons_of_mem _ List.mem_cons_self)
  | fresh => cases answer <;> cases hnext
  | begun t | recorded t f | debited t f d | credited t f d c | half t f d c a =>
    cases answer <;> cases hnext
  | failed t cause => cases answer <;> cases hnext

end Apart

theorem leaves_of_apart {p : Program (Except StoreError Receipt)} (hp : st.program o = p)
    (apart : Apart o u ws st s) (check : o.check = .ok ()) (now : Timestamp) :
    Leaves u (fun r s' => ((Job.transfer o).Writes r u s' ∧ r.IsNew u.tables) ∧
        ∃ history, Run history ⟨s', ws⟩)
      (Backend.memory.run now p st.ticket?.toList s) := by
  induction p generalizing st s with
  | done a =>
    rw [program_eq] at hp
    cases hp
  | overflow why =>
    rw [program_eq] at hp
    cases hp
  | ask c next ih =>
    rw [program_eq] at hp
    cases hp
    rcases h : s.perform now (st.call o) with ⟨s', answer | r⟩
    · have hperform : Backend.memory.perform now (st.call o) s = (s', .answered answer) := h
      simp only [Backend.run, hperform, track_eq]
      cases hnext : st.next o answer with
      | inl st' =>
        have leaves := ih answer (by simp only [hnext]) (apart.next h check hnext)
        simpa only [hnext, leftOpen] using leaves
      | inr result =>
        have leads := apart.leads h check
        rw [hnext] at leads
        have locks := apart.ended h hnext
        cases leads with
        | failed tables _ _ => exact .failure ⟨tables.trans apart.tables, locks⟩
        | done writes _ =>
          obtain ⟨history, run⟩ := apart.reached
          have writes := writes.of_tables apart.tables apart.issued
          exact .success ⟨⟨writes, apart.isNew hnext⟩, _, run.step (.answer apart.admits h)⟩ locks
    · have hperform : Backend.memory.perform now (st.call o) s = (s', .waiting r) := h
      simp only [Backend.run, hperform]
      exact .blocked (apart.cancelled h _)

end Stage

/-- One transfer, its two entries, and the balances of its two accounts. -/
structure TransferOrder.Moves (o : TransferOrder) (p : Posted) (t t' : Tables) : Prop where
  positive : 0 < o.amount.toInt
  transfer : o.Records p.transfer
  debit : p.debit.account = o.source ∧ p.debit.amount.toInt = -o.amount.toInt
  credit : p.credit.Shows o.target o.amount
  new : p.IsNew t
  sides : (∃ a ∈ t.accounts, a.id = o.source) ∧ ∃ a ∈ t.accounts, a.id = o.target
  rows : ∃ move : Account → Account, (∀ a, (move a).Agrees a) ∧
    (∀ a ∈ t.accounts, (move a).balance.toInt =
      a.balance.toInt - (if a.id = o.source then o.amount.toInt else 0) +
        if a.id = o.target then o.amount.toInt else 0) ∧
    t' = { t with
      accounts := t.accounts.map move
      entries := Store.Table.insertAll Entry.id [p.debit, p.credit] t.entries
      transfers := Store.Table.insertAll Transfer.id [p.transfer] t.transfers }

theorem Job.Writes.moves {o : TransferOrder} {r : Receipt} {s s' : Store} {ws : List Waiting}
    (h : (Job.transfer o).Writes r s s') (new : r.IsNew s.tables) (ord : Orderly s ws) :
    ∃ p, r = .posted p ∧ o.Moves p s.tables s'.tables := by
  cases h with
  | @transfer _ _ _ f d c a b check records debit credit first second tables issued =>
    have hpos := TransferOrder.amount_pos check
    obtain ⟨⟨x, hx, hxid⟩, y, hy, hyid⟩ := o.exists_sides first second
    refine ⟨_, rfl, hpos, records, ⟨debit.1, ?_⟩, credit, new _ rfl, ⟨⟨x, hx, hxid⟩, y, hy, hyid⟩,
      Transaction.setBalance b.id b.balance ∘ Transaction.setBalance a.id a.balance,
      Visit.agrees_setBalance_twice a b, ?_, ?_⟩
    · exact (congrArg Int64.toInt debit.2).trans (Amount.toInt_neg_of_pos hpos)
    · intro z hz
      have hchange := TransferOrder.balance_change ord.accounts_nodup hpos first second hz
      simp only [eq_comm (b := z.id), Amount.toInt_neg_of_pos hpos] at hchange
      rw [Function.comp_apply, hchange]
      omega
    · rw [tables, List.map_map]
      rfl

theorem tidy_post (o : TransferOrder) :
    Tidy (fun s p s' => o.Moves p s.tables s'.tables) o.post.run := by
  have attempt : Tidy (fun s r s' => ∃ p, r = .posted p ∧ o.Moves p s.tables s'.tables)
      (Job.transfer o).attempt.run := by
    intro history s ws run now
    rw [Stage.attempt_eq]
    cases hcheck : o.check with
    | error why => exact .failure (.refl s)
    | ok u =>
      have leaves := Stage.leaves_of_apart rfl (Stage.Apart.fresh run) hcheck now
      simp only [Stage.ticket?, Option.toList_none] at leaves
      generalize Backend.memory.run now _ _ s = result at leaves ⊢
      cases leaves with
      | success writes locks => exact .success (writes.1.1.moves writes.1.2 run.orderly) locks
      | failure same => exact .failure same
      | overflow same => exact .overflow same
      | blocked same => exact .blocked same
  refine (attempt.map (Permitted.unwrapped Receipt.posted?) ?_ ?_).of_eq
    (Permitted.run_eq_unwrapped .posted rfl Receipt.posted? fun _ => rfl)
  · exact fun e => ⟨e, rfl⟩
  · rintro s _ s' ⟨p, rfl, moves⟩
    exact ⟨p, rfl, moves⟩

end Giro
