import Giro.Proofs.Alone

/-!
# Serial order

Whatever the callers of a pool do at the same time, the jobs that succeed could as well have run
alone, one after another, in the order in which they committed. The two courses differ in times and
in the numbers of rows of history, which failed and cancelled jobs use up; `plain` leaves those out.
-/

namespace Giro

open Traffic

def User.plain (u : User) : User := { u with createdAt := .epoch }

def Account.plain (a : Account) : Account := { a with createdAt := .epoch }

def Entry.plain (e : Entry) : Entry := { e with id := 0, createdAt := .epoch }

def Transfer.plain (f : Transfer) : Transfer := { f with id := 0, createdAt := .epoch }

def Posted.plain (p : Posted) : Posted :=
  ⟨p.transfer.plain, p.source.plain, p.target.plain, p.debit.plain, p.credit.plain⟩

def Receipt.plain : Receipt → Receipt
  | .registered u => .registered u.plain
  | .opened a => .opened a.plain
  | .closed => .closed
  | .posted p => .posted p.plain

/-- Stores with the same rows, apart from what `plain` leaves out and the order of history. -/
structure Store.Alike (s u : Store) : Prop where
  users : s.tables.users.map User.plain = u.tables.users.map User.plain
  accounts : s.tables.accounts.map Account.plain = u.tables.accounts.map Account.plain
  entries : (s.tables.entries.map Entry.plain).Perm (u.tables.entries.map Entry.plain)
  transfers : (s.tables.transfers.map Transfer.plain).Perm (u.tables.transfers.map Transfer.plain)
  issued : s.issued.account = u.issued.account

theorem exists_mem_of_map {α β : Type} {f : α → β} {l l' : List α} (h : (l.map f).Perm (l'.map f))
    {x : α} (hx : x ∈ l) : ∃ y ∈ l', f y = f x :=
  List.mem_map.mp (h.mem_iff.mp (List.mem_map_of_mem hx))

theorem perm_map_insertAll {ρ α : Type} {id : ρ → Int} {f : ρ → α} {new new' rows rows' : List ρ}
    (hnew : new.map f = new'.map f) (h : (rows.map f).Perm (rows'.map f)) :
    ((Store.Table.insertAll id new rows).map f).Perm
      ((Store.Table.insertAll id new' rows').map f) := by
  refine ((Store.Table.perm_insertAll new rows).map f).trans
    (.trans ?_ ((Store.Table.perm_insertAll new' rows').map f).symm)
  rw [List.map_append, List.map_append, hnew]
  exact h.append_left _

namespace Account

variable {rows : List Account} {id : Int} {amount : Amount} {a b : Account}

theorem eq_of_plain (h : b.plain = a.plain) :
    b.id = a.id ∧ b.owner = a.owner ∧ b.balance = a.balance ∧ b.currency = a.currency := by
  simpa [plain] using h

theorem map_plain_setBalance (n : Int) (balance : Amount) (rows : List Account) :
    (rows.map (Transaction.setBalance n balance)).map plain =
      (rows.map plain).map (Transaction.setBalance n balance) := by
  rw [List.map_map, List.map_map]
  apply List.map_congr_left
  intro x _
  change (Transaction.setBalance n balance x).plain = Transaction.setBalance n balance x.plain
  have hid : x.plain.id = x.id := rfl
  by_cases h : x.id = n
  · rw [Transaction.setBalance, Transaction.setBalance, if_pos h, if_pos (hid.trans h)]
    rfl
  · rw [Transaction.setBalance, Transaction.setBalance, if_neg h, if_neg (hid ▸ h)]

theorem map_plain_filter (id : Int) (rows : List Account) :
    (rows.filter fun a => a.id ≠ id).map plain = (rows.map plain).filter fun a => a.id ≠ id := by
  rw [List.filter_map]
  rfl

theorem map_plain_change {rows' : List Account} (h : rows.map plain = rows'.map plain)
    (hab : b.plain = a.plain) :
    (rows.map (Transaction.setBalance a.id a.balance)).map plain =
      (rows'.map (Transaction.setBalance b.id b.balance)).map plain := by
  obtain ⟨hid, _, hbalance, _⟩ := eq_of_plain hab
  rw [map_plain_setBalance, map_plain_setBalance, h, hid, hbalance]

theorem Changed.plain (h : Changed rows id amount a) :
    Changed (rows.map Account.plain) id amount a.plain := by
  obtain ⟨x, hx, hid, hagrees, hsum⟩ := h
  refine ⟨x.plain, List.mem_map_of_mem hx, hid, ?_, hsum⟩
  rw [hagrees.eq]
  rfl

theorem Changed.exists_of_plain (h : Changed (rows.map Account.plain) id amount b) :
    ∃ a, Changed rows id amount a ∧ a.plain = b := by
  obtain ⟨y, hy, hid, hagrees, hsum⟩ := h
  obtain ⟨x, hx, rfl⟩ := List.mem_map.mp hy
  exact ⟨{ x with balance := b.balance },
    ⟨x, hx, hid, (agrees_refl x).with_balance b.balance, hsum⟩, hagrees.eq.symm⟩

theorem Changed.unique (nodup : (rows.map Account.id).Nodup) (ha : Changed rows id amount a)
    (hb : Changed rows id amount b) : a = b := by
  obtain ⟨x, hx, hid, hagrees, hsum⟩ := ha
  obtain ⟨y, hy, hid', hagrees', hsum'⟩ := hb
  have hxy : x = y := List.inj_on_of_nodup_map nodup hx hy (hid.trans hid'.symm)
  subst hxy
  have hbalance : a.balance = b.balance := Int64.toInt_inj.mp (hsum.trans hsum'.symm)
  rw [hagrees.eq, hagrees'.eq, hbalance]

theorem Changed.plain_unique {rows' : List Account} (nodup : (rows.map Account.id).Nodup)
    (h : rows.map Account.plain = rows'.map Account.plain) (ha : Changed rows id amount a)
    (hb : Changed rows' id amount b) : b.plain = a.plain := by
  have hids : (rows.map Account.plain).map Account.id = rows.map Account.id := by
    rw [List.map_map]
    rfl
  refine Changed.unique (hids ▸ nodup) ?_ ha.plain
  rw [h]
  exact hb.plain

end Account

theorem TransferOrder.plain_posted (o : TransferOrder) (f : Transfer) (d c : Entry)
    (a b : Account) :
    (o.posted f d c a b).plain = o.posted f.plain d.plain c.plain a.plain b.plain := by
  unfold posted sides Posted.plain
  split
  · rfl
  · split <;> rfl

theorem TransferOrder.Records.plain {o : TransferOrder} {f : Transfer} (h : o.Records f) :
    f.plain = ⟨0, o.source, o.target, o.amount, .epoch⟩ := by
  obtain ⟨hsource, htarget, hamount⟩ := h
  rw [Transfer.plain, hsource, htarget, hamount]

theorem Entry.Shows.plain {e : Entry} {account : Int} {amount : Amount}
    (h : e.Shows account amount) : e.plain = ⟨0, account, amount, .epoch⟩ := by
  obtain ⟨haccount, hamount⟩ := h
  rw [Entry.plain, haccount, hamount]

/-! ## Stores that are alike -/

namespace Store.Alike

variable {s s' u u' : Store}

theorem refl (s : Store) : Alike s s := ⟨rfl, rfl, .refl _, .refl _, rfl⟩

theorem symm (h : Alike s u) : Alike u s :=
  ⟨h.users.symm, h.accounts.symm, h.entries.symm, h.transfers.symm, h.issued.symm⟩

theorem of_tables (h : Alike s u) (tables : s'.tables = s.tables)
    (issued : s'.issued.account = s.issued.account) : Alike s' u := by
  constructor
  · rw [tables]; exact h.users
  · rw [tables]; exact h.accounts
  · rw [tables]; exact h.entries
  · rw [tables]; exact h.transfers
  · rw [issued]; exact h.issued

variable (h : Alike s u)
include h

theorem exists_user {v : User} (hv : v ∈ s.tables.users) :
    ∃ v' ∈ u.tables.users, v'.username = v.username ∧ v'.email = v.email := by
  obtain ⟨v', hv', heq⟩ := exists_mem_of_map (.of_eq h.users) hv
  simp only [User.plain, User.mk.injEq] at heq
  exact ⟨v', hv', heq.1, heq.2.2.2.1⟩

theorem isSome_user? {username : String} (hsome : (s.tables.user? username).isSome) :
    (u.tables.user? username).isSome := by
  simp only [Tables.user?, List.find?_isSome, beq_iff_eq] at hsome ⊢
  obtain ⟨v, hv, rfl⟩ := hsome
  obtain ⟨v', hv', hname, _⟩ := h.exists_user hv
  exact ⟨v', hv', hname⟩

theorem exists_account {a : Account} (ha : a ∈ s.tables.accounts) :
    ∃ a' ∈ u.tables.accounts, a'.plain = a.plain :=
  exists_mem_of_map (.of_eq h.accounts) ha

theorem isSome_account? {id : Int} (hsome : (s.tables.account? id).isSome) :
    (u.tables.account? id).isSome := by
  simp only [Tables.account?, Table.find?, List.find?_isSome, beq_iff_eq] at hsome ⊢
  obtain ⟨a, ha, rfl⟩ := hsome
  obtain ⟨a', ha', heq⟩ := h.exists_account ha
  exact ⟨a', ha', (Account.eq_of_plain heq).1⟩

theorem isReferenced {id : Int} (named : s.tables.IsReferenced id) : u.tables.IsReferenced id := by
  rcases named with ⟨e, he, hid⟩ | ⟨f, hf, hid⟩
  · obtain ⟨e', he', heq⟩ := exists_mem_of_map h.entries he
    simp only [Entry.plain, Entry.mk.injEq] at heq
    exact Or.inl ⟨e', he', heq.2.1.trans hid⟩
  · obtain ⟨f', hf', heq⟩ := exists_mem_of_map h.transfers hf
    simp only [Transfer.plain, Transfer.mk.injEq] at heq
    obtain ⟨_, hsource, htarget, _⟩ := heq
    exact Or.inr ⟨f', hf', by rwa [hsource, htarget]⟩

theorem changed {id : Int} {amount : Amount} {a : Account}
    (ha : Account.Changed s.tables.accounts id amount a) :
    ∃ a', Account.Changed u.tables.accounts id amount a' ∧ a'.plain = a.plain := by
  have := ha.plain
  rw [h.accounts] at this
  exact this.exists_of_plain

variable {now now' : Timestamp}

theorem exists_createUser {new : NewUser} {v : User} (hs : s.createUser new now' = .ok (v, s'))
    (now : Timestamp) : ∃ v u', u.createUser new now = .ok (v, u') := by
  obtain ⟨hname, hemail, _, _⟩ := Store.createUser_eq_ok_iff.mp hs
  have hname' : u.tables.user? new.username = none := by
    rw [← Option.not_isSome_iff_eq_none] at hname ⊢
    exact fun hsome => hname (h.symm.isSome_user? hsome)
  have hemail' : ¬ ∃ v ∈ u.tables.users, v.email = new.email := by
    rintro ⟨v, hv, heq⟩
    obtain ⟨v', hv', _, heq'⟩ := h.symm.exists_user hv
    exact hemail ⟨v', hv', heq'.trans heq⟩
  exact ⟨_, _, Store.createUser_eq_ok_iff.mpr ⟨hname', hemail', rfl, rfl⟩⟩

theorem exists_createAccount {new : NewAccount} {a : Account}
    (hs : s.createAccount new now' = .ok (a, s')) (now : Timestamp) :
    ∃ a u', u.createAccount new now = .ok (a, u') := by
  obtain ⟨howner, hcurrency, _, _⟩ := Store.createAccount_eq_ok_iff.mp hs
  have hcurrency' : ¬ ∃ b ∈ u.tables.accounts, b.owner = new.owner ∧ b.currency = new.currency := by
    rintro ⟨b, hb, heq⟩
    obtain ⟨b', hb', hplain⟩ := h.symm.exists_account hb
    obtain ⟨_, howner', _, hcurrency'⟩ := Account.eq_of_plain hplain
    exact hcurrency ⟨b', hb', howner'.trans heq.1, hcurrency'.trans heq.2⟩
  exact ⟨_, _, Store.createAccount_eq_ok_iff.mpr ⟨h.isSome_user? howner, hcurrency', rfl, rfl⟩⟩

end Store.Alike

/-! ## Jobs one after another -/

namespace Job.Writes

variable {j : Job} {r r' : Receipt} {s s' u u' : Store}

theorem alike_transfer {o : TransferOrder} (writes : (Job.transfer o).Writes r s s')
    (writes' : (Job.transfer o).Writes r' u u') (h : s.Alike u)
    (nodup : (s.tables.accounts.map Account.id).Nodup) : r'.plain = r.plain ∧ s'.Alike u' := by
  cases writes with
  | transfer _ records debit credit first second tables issued =>
    cases writes' with
    | transfer _ records' debit' credit' first' second' tables' issued' =>
      have ha := Account.Changed.plain_unique nodup h.accounts first first'
      have hrows := Account.map_plain_change h.accounts ha
      have hb := Account.Changed.plain_unique (by rw [Account.ids_setBalance]; exact nodup) hrows
        second second'
      refine ⟨?_, ?_⟩
      · apply congrArg Receipt.posted
        rw [TransferOrder.plain_posted, TransferOrder.plain_posted, ha, hb, records.plain,
          records'.plain, debit.plain, debit'.plain, credit.plain, credit'.plain]
      constructor
      · rw [tables, tables']; exact h.users
      · rw [tables, tables']
        exact Account.map_plain_change hrows hb
      · rw [tables, tables']
        refine perm_map_insertAll ?_ h.entries
        simp only [List.map_cons, debit.plain, debit'.plain, credit.plain, credit'.plain]
      · rw [tables, tables']
        refine perm_map_insertAll ?_ h.transfers
        simp only [List.map_cons, records.plain, records'.plain]
      · rw [issued, issued', h.issued]

/-- What a job that succeeds does is settled by the rows that it finds. -/
theorem alike (writes : j.Writes r s s') (writes' : j.Writes r' u u') (h : s.Alike u)
    (nodup : (s.tables.accounts.map Account.id).Nodup) : r'.plain = r.plain ∧ s'.Alike u' := by
  have whole := writes
  have whole' := writes'
  cases writes with
  | register hs =>
    cases writes' with
    | register hu =>
      obtain ⟨_, _, rfl, rfl⟩ := Store.createUser_eq_ok_iff.mp hs
      obtain ⟨_, _, rfl, rfl⟩ := Store.createUser_eq_ok_iff.mp hu
      refine ⟨rfl, ⟨?_, h.accounts, h.entries, h.transfers, h.issued⟩⟩
      rw [List.map_append, List.map_append, h.users]
      rfl
  | openAccount hs =>
    cases writes' with
    | openAccount hu =>
      obtain ⟨_, _, ha, rfl⟩ := Store.createAccount_eq_ok_iff.mp hs
      obtain ⟨_, _, hb, rfl⟩ := Store.createAccount_eq_ok_iff.mp hu
      have hab := congrArg Account.plain hb
      rw [← h.issued] at hab
      replace hab := hab.trans (congrArg Account.plain ha).symm
      refine ⟨congrArg Receipt.opened hab, ⟨h.users, ?_, h.entries, h.transfers, ?_⟩⟩
      · simp only [List.map_append, h.accounts, List.map_cons, hab]
      · simp only [h.issued]
  | @closeAccount _ _ id _ _ tables issued =>
    cases writes' with
    | closeAccount _ _ tables' issued' =>
      refine ⟨rfl, ?_⟩
      constructor
      · rw [tables, tables']; exact h.users
      · rw [tables, tables']
        exact (Account.map_plain_filter _ _).trans
          ((congrArg _ h.accounts).trans (Account.map_plain_filter _ _).symm)
      · rw [tables, tables']; exact h.entries
      · rw [tables, tables']; exact h.transfers
      · rw [issued, issued', h.issued]
  | transfer => exact whole.alike_transfer whole' h nodup

end Job.Writes

/-! ## Runs of one call -/

theorem Backend.run_call {c : Call} {answer : Except StoreError c.Reply} {u u' : Store}
    {now : Timestamp} (f : c.Reply → Receipt) (htrack : c.track answer [] = [])
    (h : u.perform now c = (u', .answered answer)) :
    memory.run now (f <$> Attempt.call c).run [] u = (u', .finished (answer.map f)) := by
  have hpoll : memory.perform now c u = (u', .answered answer) := h
  rw [Caller.run_map_call]
  simp only [run, hpoll, htrack]
  rfl

namespace Job.Writes

variable {j : Job} {r : Receipt} {s s' u : Store}

/-- A job that succeeded at one store succeeds alone at every store that is alike. -/
theorem again (writes : j.Writes r s s') (h : s.Alike u) (ord : Orderly u [])
    (quiet : u.transactions = []) (now : Timestamp) :
    ∃ u' r', Backend.memory.run now j.attempt.run [] u = (u', .finished (.ok r')) ∧
      j.Writes r' u u' ∧ Orderly u' [] ∧ u'.transactions = [] := by
  cases writes with
  | @register _ _ new _ _ hs =>
    obtain ⟨v, u', hu⟩ := h.exists_createUser hs now
    have hcall : u.perform now (.createUser new) = (u', .answered (.ok v)) := congrArg u.settle hu
    refine ⟨u', _, Backend.run_call Receipt.registered rfl hcall, .register hu,
      ord.of_answered hcall, ?_⟩
    obtain ⟨_, _, _, rfl⟩ := Store.createUser_eq_ok_iff.mp hu
    exact quiet
  | @openAccount _ _ new _ _ hs =>
    obtain ⟨a, u', hu⟩ := h.exists_createAccount hs now
    have hcall : u.perform now (.createAccount new) = (u', .answered (.ok a)) :=
      congrArg u.settle hu
    refine ⟨u', _, Backend.run_call Receipt.opened rfl hcall, .openAccount hu,
      ord.of_answered hcall, ?_⟩
    obtain ⟨_, _, _, rfl⟩ := Store.createAccount_eq_ok_iff.mp hu
    exact quiet
  | @closeAccount _ _ id hsome unnamed =>
    have unnamed' : ¬ u.tables.IsReferenced id := fun named => unnamed (h.symm.isReferenced named)
    obtain ⟨u', hdelete⟩ := ord.deleteAccount_alone quiet (h.isSome_account? hsome) unnamed'
    have hcall : u.perform now (.deleteAccount id) = (u', .answered (.ok ())) := hdelete
    have hpoll : Backend.memory.poll now none (.deleteAccount id) u = (u', .answered (.ok ())) :=
      hcall
    obtain ⟨htransactions, ⟨e, he, _⟩ | ⟨_, writes⟩⟩ :=
      Caller.poll_delete (fun r hr => by cases hr) hpoll
    · cases he
    · exact ⟨u', .closed, Backend.run_call (fun _ => Receipt.closed) rfl hcall, writes,
        ord.of_answered hcall, htransactions.trans quiet⟩
  | transfer check _ _ _ first second =>
    obtain ⟨a, hfirst, ha⟩ := h.changed first
    have hsecond := second.plain
    rw [Account.map_plain_change h.accounts ha] at hsecond
    obtain ⟨b, hb, _⟩ := hsecond.exists_of_plain
    exact Stage.Covered.run_alone ⟨check, hfirst, hb⟩ ord quiet now

end Job.Writes

/-- Lets jobs run alone, one after another, the latest first in the list. -/
def Store.replay (s : Store) :
    List (Timestamp × Job) → Store × List (Outcome (Except StoreError Receipt))
  | [] => (s, [])
  | (now, j) :: earlier =>
    let (s₁, outcomes) := s.replay earlier
    let (s₂, outcome) := Backend.memory.run now j.attempt.run [] s₁
    (s₂, outcome :: outcomes)

namespace Pool

variable {w w' : Pool}

def Replays (s₀ : Store) (w : Pool) : Prop :=
  ∀ js : List (Timestamp × Job), js.map Prod.snd = w.successes.map Prod.fst →
    ∃ receipts : List Receipt, (s₀.replay js).2 = receipts.map (fun r => .finished (.ok r)) ∧
      receipts.map Receipt.plain = w.successes.map (fun f => f.2.plain) ∧
      w.store.Alike (s₀.replay js).1 ∧
      Orderly (s₀.replay js).1 [] ∧ (s₀.replay js).1.transactions = []

theorem Replays.nothing {s₀ : Store} (h : Replays s₀ w) (tables : w'.store.tables = w.store.tables)
    (issued : w'.store.issued.account = w.store.issued.account)
    (successes : w'.successes = w.successes) : Replays s₀ w' := by
  intro js hjs
  rw [successes] at hjs ⊢
  obtain ⟨receipts, houtcomes, hreceipts, halike, ord, quiet⟩ := h js hjs
  exact ⟨receipts, houtcomes, hreceipts, halike.of_tables tables issued, ord, quiet⟩

theorem Replays.job {s₀ : Store} {j : Job} {r : Receipt} (h : Replays s₀ w)
    (writes : j.Writes r w.store w'.store) (successes : w'.successes = (j, r) :: w.successes)
    (nodup : (w.store.tables.accounts.map Account.id).Nodup) : Replays s₀ w' := by
  intro js hjs
  rw [successes] at hjs ⊢
  obtain _ | ⟨⟨now, j'⟩, js⟩ := js
  · cases hjs
  obtain ⟨rfl, hearlier⟩ := List.cons.inj hjs
  obtain ⟨receipts, houtcomes, hreceipts, halike, ord, quiet⟩ := h js hearlier
  obtain ⟨u', r', hrun, writes', ord', quiet'⟩ := writes.again halike ord quiet now
  obtain ⟨hr, halike'⟩ := writes.alike writes' halike nodup
  have hreplay : s₀.replay ((now, j') :: js) = (u', .finished (.ok r') :: (s₀.replay js).2) := by
    simp only [Store.replay, hrun]
  rw [hreplay]
  refine ⟨r' :: receipts, ?_, ?_, halike', ord', quiet'⟩
  · rw [houtcomes, List.map_cons]
  · rw [List.map_cons, List.map_cons, hr, hreceipts]

/-- The jobs that succeeded succeed again when they run alone, one after another, in the order in
which they committed, whatever the time is. Their receipts and the rows of the store are the same,
apart from times and the numbers of rows of history. -/
theorem Run.serializable {s₀ : Store} (settled : s₀.Settled) (run : Run s₀ w)
    (js : List (Timestamp × Job)) (hjs : js.map Prod.snd = w.successes.map Prod.fst) :
    ∃ receipts : List Receipt, (s₀.replay js).2 = receipts.map (fun r => .finished (.ok r)) ∧
      receipts.map Receipt.plain = w.successes.map (fun f => f.2.plain) ∧
      w.store.Alike (s₀.replay js).1 := by
  have h : Replays s₀ w := by
    apply run.invariant (P := Replays s₀) settled
    · intro js hjs
      cases List.map_eq_nil_iff.mp hjs
      obtain ⟨⟨_, history⟩, quiet⟩ := settled
      exact ⟨[], rfl, rfl, .refl s₀, history.orderly, quiet⟩
    · intro w w' sound h commits
      cases commits with
      | nothing tables issued successes => exact h.nothing tables issued successes
      | job writes successes => exact h.job writes successes sound.orderly.accounts_nodup
  obtain ⟨receipts, houtcomes, hreceipts, halike, _⟩ := h js hjs
  exact ⟨receipts, houtcomes, hreceipts, halike⟩

theorem Run.serializable_of_interleaved :
    ∃ (w : Pool) (js : List (Timestamp × Job)), Run .empty w ∧
      w.finished.length = 6 ∧ js.length = 5 ∧
      (w.store.tables.accounts.map fun a => a.balance.toInt) = [110, 90] ∧
      ∃ receipts : List Receipt,
        (Store.empty.replay js).2 = receipts.map (fun r => .finished (.ok r)) ∧
        receipts.map Receipt.plain = w.successes.map (fun f => f.2.plain) ∧
        w.store.Alike (Store.empty.replay js).1 := by
  have run := (@Run.start .empty).arrive (.register ⟨"ada", "", "", ""⟩) |>.turn .epoch 0
  have run := run.arrive (.openAccount ⟨"ada", .usd, 100⟩) |>.turn .epoch 0
  have run := run.arrive (.openAccount ⟨"ada", .eur, 100⟩) |>.turn .epoch 0
  have run := run.arrive (.transfer ⟨1, 2, 10⟩) |>.arrive (.transfer ⟨2, 1, 20⟩)
  have run := run.arrive (.transfer ⟨1, 3, 5⟩)
  have run := run.turn .epoch 2 |>.turn .epoch 2 |>.turn .epoch 2 |>.turn .epoch 2
  have run := run.turn .epoch 0 |>.turn .epoch 0 |>.turn .epoch 0 |>.turn .epoch 0 |>.turn .epoch 0
  have run := run.turn .epoch 1 |>.turn .epoch 1 |>.turn .epoch 1 |>.turn .epoch 1 |>.turn .epoch 1
  have run := run.turn .epoch 0 |>.turn .epoch 0 |>.turn .epoch 0 |>.turn .epoch 0 |>.turn .epoch 0
  refine ⟨_, [(.epoch, .transfer ⟨2, 1, 20⟩), (.epoch, .transfer ⟨1, 2, 10⟩),
    (.epoch, .openAccount ⟨"ada", .eur, 100⟩), (.epoch, .openAccount ⟨"ada", .usd, 100⟩),
    (.epoch, .register ⟨"ada", "", "", ""⟩)], run, rfl, rfl, rfl, ?_⟩
  exact run.serializable Store.settled_empty _ rfl

end Pool
end Giro
