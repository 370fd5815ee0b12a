import Giro.Proofs.Pools

/-!
# Jobs that nobody is in the way of

While nobody else has asked for the rows of a transfer, none of its calls has to wait, and where its
two additions lead is told by the two rows alone: `Stage.Carried.exists_run`. At a store that nobody
else uses that is so of every transfer, and one whose accounts are there and whose sums are in range
runs to its end: `Stage.Covered.run_alone`.
-/

namespace Giro

open Traffic

/-- The row once an amount has been added, if the sum is in range. -/
def Account.plus (a : Account) (amount : Amount) : Except StoreError Account :=
  match Amount.add? a.balance amount with
  | some balance => .ok { a with balance }
  | none => .error (.constraint .balanceOutOfRange)

theorem Account.plus_eq_ok_iff {x a : Account} {amount : Amount} : x.plus amount = .ok a ↔
    ∃ balance : Amount, balance.toInt = x.balance.toInt + amount.toInt ∧
      a = { x with balance } := by
  unfold plus
  split
  · rename_i balance hb
    simp only [Except.ok.injEq, ← Amount.add?_eq_some_iff, hb, Option.some.injEq]
    constructor
    · rintro rfl
      exact ⟨balance, rfl, rfl⟩
    · rintro ⟨_, rfl, rfl⟩
      rfl
  · rename_i hb
    simp [← Amount.add?_eq_some_iff, hb]

namespace Traffic.Orderly

variable {s s' : Store} {ws : List Waiting} {tx : Transaction} {id : Int}

/-- A row that nobody else has asked for is had as soon as it is asked for. -/
theorem holds_enqueue_own (ord : Orderly s ws) (htx : tx ∈ s.transactions)
    (free : Free tx.ticket ws) (own : ∀ r ∈ s.requests, r.account = id → r.ticket = tx.ticket)
    (unlocked : tx.row? id = none) : (s.enqueue ⟨tx.ticket, id⟩).Holds ⟨tx.ticket, id⟩ := by
  by_contra behind
  obtain ⟨q, hq, haccount⟩ := Store.exists_request_of_not_holds rfl behind
  have hticket := own q hq haccount
  rcases ord.requests_owned q hq with ⟨tx', htx', ht', row, hm, hid⟩ | ⟨v, hv, rfl⟩
  · cases ord.eq_of_ticket htx' htx (ht'.trans hticket)
    exact Transaction.row?_eq_none_iff.mp unlocked row hm (hid.trans haccount)
  · exact free v hv hticket

/-- A row that nobody else has asked for is added to at once, whether it is locked already or
not. -/
theorem addBalance_own {y : Account} (ord : Orderly s ws) (htx : tx ∈ s.transactions)
    (free : Free tx.ticket ws) (own : ∀ r ∈ s.requests, r.account = id → r.ticket = tx.ticket)
    (hy : y ∈ s.tables.accounts.map tx.publish) (hyid : y.id = id) (amount : Amount) :
    (s.addBalance tx.ticket id amount).2 = .answered (y.plus amount) := by
  obtain ⟨x, hx, rfl⟩ := List.mem_map.mp hy
  have hxid : x.id = id := by simpa using hyid
  have hfind := ord.transaction?_eq_some htx
  cases hrow : tx.row? id with
  | some row =>
    obtain ⟨hm, hid⟩ := Transaction.mem_of_row? hrow
    obtain ⟨x₀, hx₀, rfl⟩ := ord.exists_publish_eq htx hm
    rw [Transaction.id_publish] at hid
    cases ord.eq_of_account_id hx hx₀ (hxid.trans hid.symm)
    simp only [Store.addBalance, hfind, hrow, Store.addStaged, Account.plus]
    cases Amount.add? (tx.publish x).balance amount <;> rfl
  | none =>
    have hself : tx.publish x = x := Transaction.publish_eq_self (by rw [hxid]; exact hrow)
    have hl : id ∈ s.lockable := (ord.mem_lockable_iff id).mpr ⟨x, hx, hxid⟩
    have holds := ord.holds_enqueue_own htx free own hrow
    have haccount : (s.enqueue ⟨tx.ticket, id⟩).tables.account? id = some x :=
      hxid ▸ ord.account?_eq_some hx
    rw [Store.addBalance_of_row?_eq_none amount hfind hrow hl, if_pos holds, hself]
    simp only [Store.addGranted, haccount, Store.addStaged, Account.plus]
    cases Amount.add? x.balance amount <;> rfl

variable (ord : Orderly s [])
include ord

theorem of_answered {c : Call} {answer : Except StoreError c.Reply} {now : Timestamp}
    (h : s.perform now c = (s', .answered answer)) : Orderly s' [] :=
  (Step.answer (fun _ hv => absurd hv List.not_mem_nil) h).orderly ord

theorem deleteAccount_alone (quiet : s.transactions = []) (hsome : (s.tables.account? id).isSome)
    (unnamed : ¬ s.tables.IsReferenced id) :
    ∃ s', s.deleteAccount id = (s', .answered (.ok ())) := by
  obtain ⟨x, hx⟩ := Option.isSome_iff_exists.mp hsome
  obtain ⟨hm, hid⟩ := Tables.mem_of_account? hx
  have hl : id ∈ s.lockable := (ord.mem_lockable_iff id).mpr ⟨x, hm, hid⟩
  have holds : (s.draw.2.enqueue ⟨s.draw.1, id⟩).Holds ⟨s.draw.1, id⟩ := by
    by_contra behind
    obtain ⟨q, hq, _⟩ := Store.exists_request_of_not_holds (s := s.draw.2) rfl behind
    rcases ord.requests_owned q hq with ⟨tx, htx, _⟩ | ⟨v, hv, _⟩
    · rw [quiet] at htx
      cases htx
    · cases hv
  have hok : ((s.draw.2.enqueue ⟨s.draw.1, id⟩).deleteGranted ⟨s.draw.1, id⟩).2 = .ok () :=
    Store.deleteGranted_eq_ok hsome unnamed
  refine ⟨((s.draw.2.enqueue ⟨s.draw.1, id⟩).deleteGranted ⟨s.draw.1, id⟩).1,
    (Store.deleteAccount_of_mem_lockable hl).trans ?_⟩
  rw [if_pos holds, hok]

end Traffic.Orderly

/-! ## A transfer that nobody is in the way of -/

namespace TransferOrder

variable (o : TransferOrder)

/-- The transfer that an order records, with the next number. -/
def transferOf (i : Issued) (now : Timestamp) : Transfer :=
  ⟨i.transfer + 1, o.source, o.target, o.amount, now⟩

def debitOf (i : Issued) (now : Timestamp) : Entry := ⟨i.entry + 1, o.source, -o.amount, now⟩

def creditOf (i : Issued) (now : Timestamp) : Entry := ⟨i.entry + 1 + 1, o.target, o.amount, now⟩

/-- What the two additions make of two rows, in the order in which they are locked. -/
def change (x y : Account) : Except StoreError (Account × Account) :=
  (x.plus o.firstAmount).bind fun a =>
    ((Transaction.setBalance a.id a.balance y).plus o.secondAmount).map fun b => (a, b)

variable {o} {rows : List Account} {x y a b : Account}

theorem change_eq_ok_iff : o.change x y = .ok (a, b) ↔ x.plus o.firstAmount = .ok a ∧
    (Transaction.setBalance a.id a.balance y).plus o.secondAmount = .ok b := by
  unfold change
  cases x.plus o.firstAmount with
  | error e => simp [Except.bind]
  | ok a' =>
    simp only [Except.bind, Except.ok.injEq]
    constructor
    · intro h
      cases hy : (Transaction.setBalance a'.id a'.balance y).plus o.secondAmount with
      | error e =>
        rw [hy] at h
        cases h
      | ok b' =>
        rw [hy] at h
        cases h
        exact ⟨rfl, hy⟩
    · rintro ⟨rfl, hy⟩
      rw [hy]
      rfl

theorem exists_change (first : Account.Changed rows o.first o.firstAmount a)
    (second : Account.Changed (rows.map (Transaction.setBalance a.id a.balance)) o.second
      o.secondAmount b) : ∃ x ∈ rows, ∃ y ∈ rows, x.id = o.first ∧ y.id = o.second ∧
        o.change x y = .ok (a, b) := by
  obtain ⟨x, hx, hxid, hagrees, hsum⟩ := first
  obtain ⟨y', hy', hyid, hagrees', hsum'⟩ := second
  obtain ⟨y, hy, rfl⟩ := List.mem_map.mp hy'
  refine ⟨x, hx, y, hy, hxid, by simpa using hyid, change_eq_ok_iff.mpr ⟨?_, ?_⟩⟩
  · exact Account.plus_eq_ok_iff.mpr ⟨a.balance, hsum, hagrees.eq⟩
  · exact Account.plus_eq_ok_iff.mpr ⟨b.balance, hsum', hagrees'.eq⟩

end TransferOrder

theorem Store.isOpen_of_mem {s : Store} {tx : Transaction} (htx : tx ∈ s.transactions) :
    (s.transaction? tx.ticket).isSome :=
  Store.isSome_transaction?_iff.mpr ⟨tx, htx, rfl⟩

theorem Store.exists_stageTransfer {s : Store} {t : Nat} {source target : Int} {amount : Amount}
    (isOpen : (s.transaction? t).isSome) (hamount : ¬ amount ≤ 0)
    (hsource : (s.tables.account? source).isSome) (htarget : (s.tables.account? target).isSome)
    (now : Timestamp) : ∃ s', s.perform now (.stageTransfer t source target amount) =
        (s', .answered (.ok ⟨s.issued.transfer + 1, source, target, amount, now⟩)) ∧
      s'.issued.entry = s.issued.entry := by
  have h : s.stageTransfer t source target amount now = .ok (_, _) :=
    Store.stageTransfer_eq_ok_iff.mpr ⟨isOpen, hamount, hsource, htarget, rfl, rfl⟩
  exact ⟨_, congrArg s.settle h, rfl⟩

theorem Store.exists_stageEntry {s : Store} {t : Nat} {account : Int}
    (isOpen : (s.transaction? t).isSome) (haccount : (s.tables.account? account).isSome)
    (amount : Amount) (now : Timestamp) : ∃ s', s.perform now (.stageEntry t account amount) =
        (s', .answered (.ok ⟨s.issued.entry + 1, account, amount, now⟩)) ∧
      s'.issued.entry = s.issued.entry + 1 := by
  have h : s.stageEntry t account amount now = .ok (_, _) :=
    Store.stageEntry_eq_ok_iff.mpr ⟨isOpen, haccount, rfl, rfl⟩
  exact ⟨_, congrArg s.settle h, rfl⟩

theorem Job.Writes.of_tables {s u s' : Store} {o : TransferOrder} {r : Receipt}
    (h : (Job.transfer o).Writes r s s') (tables : s.tables = u.tables)
    (issued : s.issued.account = u.issued.account) : (Job.transfer o).Writes r u s' := by
  cases h with
  | transfer check records debit credit first second tables' issued' =>
    rw [tables] at first second tables'
    exact .transfer check records debit credit first second tables' (issued'.trans issued)

namespace Stage

variable {o : TransferOrder} {u s s' : Store} {ws : List Waiting} {now : Timestamp}
    {st st' : Stage}

theorem run_next {answer : Except StoreError (st.call o).Reply}
    (h : s.perform now (st.call o) = (s', .answered answer)) (hnext : st.next o answer = .inl st') :
    Backend.memory.run now (st.program o) st.ticket?.toList s =
      Backend.memory.run now (st'.program o) st'.ticket?.toList s' := by
  have hpoll : Backend.memory.perform now (st.call o) s = (s', .answered answer) := h
  rw [st.program_eq o]
  simp only [Backend.run, hpoll, hnext, track_eq, leftOpen]

theorem run_finish {answer : Except StoreError (st.call o).Reply}
    {result : Except StoreError Receipt} (h : s.perform now (st.call o) = (s', .answered answer))
    (hnext : st.next o answer = .inr result) :
    Backend.memory.run now (st.program o) st.ticket?.toList s = (s', .finished result) := by
  have hpoll : Backend.memory.perform now (st.call o) s = (s', .answered answer) := h
  rw [st.program_eq o]
  simp only [Backend.run, hpoll, hnext, track_eq, leftOpen]
  rfl

/-- A stage at which nobody but the transfer has asked for its rows, and at which the tables are
still those of the start. -/
structure Undisturbed (o : TransferOrder) (u : Store) (ws : List Waiting) (st : Stage) (s : Store) :
    Prop where
  orderly : Orderly s ws
  stands : st.Stands o s
  tables : s.tables = u.tables
  free : ∀ t, st.ticket? = some t → Free t ws
  own : ∀ t, st.ticket? = some t → ∀ r ∈ s.requests,
    r.account = o.first ∨ r.account = o.second → r.ticket = t

/-- What holds of an undisturbed stage and is carried on to the next one. -/
structure Carried (o : TransferOrder) (u : Store) (ws : List Waiting) (now : Timestamp)
    (P : Stage → Store → Prop) : Prop where
  undisturbed : ∀ {st s}, P st s → Undisturbed o u ws st s
  next : ∀ {st st' s s'} {answer : Except StoreError (st.call o).Reply}, P st s →
    s.perform now (st.call o) = (s', .answered answer) → st.next o answer = .inl st' → P st' s'

/-- Where the two additions lead. -/
def changed (t : Nat) (f : Transfer) (d c : Entry) : Except StoreError (Account × Account) → Stage
  | .ok (a, b) => .full t f d c a b
  | .error e => .failed t e

namespace Carried

variable {P : Stage → Store → Prop} (carried : Carried o u ws now P)
include carried

theorem advance {answer : Except StoreError (st.call o).Reply} (holds : P st s)
    (h : s.perform now (st.call o) = (s', .answered answer)) (hnext : st.next o answer = .inl st') :
    P st' s' ∧ Backend.memory.run now (st.program o) st.ticket?.toList s =
      Backend.memory.run now (st'.program o) st'.ticket?.toList s' :=
  ⟨carried.next holds h hnext, run_next h hnext⟩

/-- The four calls before a balance is changed need nothing but the two accounts. -/
theorem exists_credited (fresh : P .fresh u) (hamount : ¬ o.amount ≤ 0)
    (hsource : (u.tables.account? o.source).isSome)
    (htarget : (u.tables.account? o.target).isSome) : ∃ t f d c s, P (.credited t f d c) s ∧
      f = o.transferOf u.issued now ∧ d = o.debitOf u.issued now ∧ c = o.creditOf u.issued now ∧
      Backend.memory.run now (Stage.program o .fresh) [] u =
        Backend.memory.run now (Stage.program o (.credited t f d c)) [t] s := by
  have hbegin : u.perform now (Stage.call o .fresh) = (u.begin.2, .answered (.ok u.begin.1)) := rfl
  obtain ⟨begun, run₁⟩ := carried.advance fresh hbegin rfl
  have stands := (carried.undisturbed begun).stands
  obtain ⟨s₂, hf, hentry₂⟩ :=
    Store.exists_stageTransfer (Store.isOpen_of_mem stands) hamount hsource htarget now
  obtain ⟨recorded, run₂⟩ := carried.advance begun hf rfl
  obtain ⟨_, stands, tables₂, _, _⟩ := carried.undisturbed recorded
  rw [← tables₂] at hsource htarget
  obtain ⟨s₃, hd, hentry₃⟩ :=
    Store.exists_stageEntry (Store.isOpen_of_mem stands.1) hsource (-o.amount) now
  obtain ⟨debited, run₃⟩ := carried.advance recorded hd rfl
  obtain ⟨_, stands, tables₃, _, _⟩ := carried.undisturbed debited
  rw [tables₂, ← tables₃] at htarget
  obtain ⟨s₄, hc, _⟩ := Store.exists_stageEntry (Store.isOpen_of_mem stands.1) htarget o.amount now
  obtain ⟨credited, run₄⟩ := carried.advance debited hc rfl
  refine ⟨_, _, _, _, s₄, credited, rfl, ?_, ?_, run₁.trans (run₂.trans (run₃.trans run₄))⟩
  · rw [hentry₂]
    rfl
  · rw [hentry₃, hentry₂]
    rfl

/-- What the second addition answers, on the row that the first one has left. -/
theorem exists_half {t : Nat} {f : Transfer} {d c : Entry} {a y : Account}
    (half : P (.half t f d c a) s) (hy : y ∈ u.tables.accounts) (hyid : y.id = o.second) :
    ∃ s', P (changed t f d c
        (((Transaction.setBalance a.id a.balance y).plus o.secondAmount).map fun b => (a, b))) s' ∧
      Backend.memory.run now (Stage.program o (.half t f d c a)) [t] s =
        Backend.memory.run now (Stage.program o (changed t f d c
          (((Transaction.setBalance a.id a.balance y).plus o.secondAmount).map fun b => (a, b))))
          [t] s' := by
  obtain ⟨ord, stands, tables, free, own⟩ := carried.undisturbed half
  have seen : Transaction.setBalance a.id a.balance y ∈
      s.tables.accounts.map ((draft t f d c).withRow a).publish := by
    rw [tables]
    exact List.mem_map.mpr ⟨y, hy, Transaction.publish_withRow y⟩
  have hadd := ord.addBalance_own stands.1 (free t rfl)
    (fun r hr haccount => own t rfl r hr (Or.inr haccount)) seen
    (by rw [Transaction.id_setBalance, hyid]) o.secondAmount
  cases hplus : (Transaction.setBalance a.id a.balance y).plus o.secondAmount with
  | error e =>
    rw [hplus] at hadd
    exact ⟨_, carried.advance half (Prod.ext rfl hadd) rfl⟩
  | ok b =>
    rw [hplus] at hadd
    exact ⟨_, carried.advance half (Prod.ext rfl hadd) rfl⟩

theorem exists_changed {t : Nat} {f : Transfer} {d c : Entry} {x y : Account}
    (credited : P (.credited t f d c) s) (hx : x ∈ u.tables.accounts) (hxid : x.id = o.first)
    (hy : y ∈ u.tables.accounts) (hyid : y.id = o.second) :
    ∃ s', P (changed t f d c (o.change x y)) s' ∧
      Backend.memory.run now (Stage.program o (.credited t f d c)) [t] s =
        Backend.memory.run now (Stage.program o (changed t f d c (o.change x y))) [t] s' := by
  obtain ⟨ord, stands, tables, free, own⟩ := carried.undisturbed credited
  have seen : x ∈ s.tables.accounts.map (draft t f d c).publish := by
    rw [tables]
    exact List.mem_map.mpr ⟨x, hx, rfl⟩
  have hadd := ord.addBalance_own stands.1 (free t rfl)
    (fun r hr haccount => own t rfl r hr (Or.inl haccount)) seen hxid o.firstAmount
  unfold TransferOrder.change
  cases hplus : x.plus o.firstAmount with
  | error e =>
    rw [hplus] at hadd
    exact ⟨_, carried.advance credited (Prod.ext rfl hadd) rfl⟩
  | ok a =>
    rw [hplus] at hadd
    obtain ⟨half, run₁⟩ := carried.advance credited (Prod.ext rfl hadd) rfl
    obtain ⟨s', holds, run₂⟩ := carried.exists_half half hy hyid
    exact ⟨s', holds, run₁.trans run₂⟩

/-- A transfer between accounts that exist comes to where its two additions lead. -/
theorem exists_run {x y : Account} (fresh : P .fresh u) (hamount : ¬ o.amount ≤ 0)
    (hx : x ∈ u.tables.accounts) (hxid : x.id = o.first) (hy : y ∈ u.tables.accounts)
    (hyid : y.id = o.second) : ∃ t f d c s, P (changed t f d c (o.change x y)) s ∧
      f = o.transferOf u.issued now ∧ d = o.debitOf u.issued now ∧ c = o.creditOf u.issued now ∧
      Backend.memory.run now (Stage.program o .fresh) [] u =
        Backend.memory.run now (Stage.program o (changed t f d c (o.change x y))) [t] s := by
  have found {z : Account} (hz : z ∈ u.tables.accounts) : (u.tables.account? z.id).isSome := by
    rw [(carried.undisturbed fresh).orderly.account?_eq_some hz]
    rfl
  obtain ⟨hsource, htarget⟩ := TransferOrder.sides_of (o := o)
    (P := fun n => (u.tables.account? n).isSome) (hxid ▸ found hx) (hyid ▸ found hy)
  obtain ⟨t, f, d, c, s, credited, hf, hd, hc, run₁⟩ :=
    carried.exists_credited fresh hamount hsource htarget
  obtain ⟨s', holds, run₂⟩ := carried.exists_changed credited hx hxid hy hyid
  exact ⟨t, f, d, c, s', holds, hf, hd, hc, run₁.trans run₂⟩

end Carried

/-! ## A transfer alone -/

/-- A transfer has come to a stage while nobody else used the store. -/
structure Alone (o : TransferOrder) (u : Store) (st : Stage) (s : Store) : Prop where
  orderly : Orderly s []
  stands : st.Stands o s
  tables : s.tables = u.tables
  issued : s.issued.account = u.issued.account
  tickets : s.tickets.Perm st.ticket?.toList

namespace Alone

variable (alone : Alone o u st s) (check : o.check = .ok ())
    {answer : Except StoreError (st.call o).Reply}
    (h : s.perform now (st.call o) = (s', .answered answer))
include alone

/-- Every open transaction is the transfer's. -/
theorem own {t : Nat} (ht : st.ticket? = some t) : ∀ r ∈ s.requests, r.ticket = t := by
  intro r hr
  rcases alone.orderly.requests_owned r hr with ⟨tx, htx, hticket, _⟩ | ⟨w, hw, _⟩
  · have hmem : tx.ticket ∈ s.tickets := List.mem_map_of_mem htx
    rw [alone.tickets.mem_iff, ht, Option.toList_some, List.mem_singleton] at hmem
    exact hticket.symm.trans hmem
  · cases hw

include check h

theorem leads : Leads o st s s' (st.next o answer) :=
  alone.stands.answered (w := none) check alone.orderly (fun r hr => by cases hr) h

theorem next (hnext : st.next o answer = .inl st') : Alone o u st' s' := by
  have leads := alone.leads check h
  rw [hnext] at leads
  cases leads with
  | on stands tables issued tickets =>
    exact ⟨alone.orderly.of_answered h, stands, tables.trans alone.tables,
      issued.trans alone.issued, tickets [] alone.tickets⟩

omit alone h in
theorem carried : Carried o u [] now (Alone o u) where
  undisturbed alone := {
    orderly := alone.orderly
    stands := alone.stands
    tables := alone.tables
    free := fun _ _ _ hw => absurd hw List.not_mem_nil
    own := fun _ ht r hr _ => alone.own ht r hr }
  next alone h hnext := alone.next check h hnext

end Alone

variable {a b : Account}

/-- What a transfer that runs alone needs of the store: both accounts, and sums in range. -/
structure Covered (o : TransferOrder) (u : Store) (a b : Account) : Prop where
  check : o.check = .ok ()
  first : Account.Changed u.tables.accounts o.first o.firstAmount a
  second : Account.Changed (u.tables.accounts.map (Transaction.setBalance a.id a.balance)) o.second
    o.secondAmount b

/-- A transfer that is covered, at a store with no open transaction, succeeds. -/
theorem Covered.run_alone (covered : Covered o u a b) (ord : Orderly u [])
    (quiet : u.transactions = []) (now : Timestamp) :
    ∃ u' r, Backend.memory.run now (Job.transfer o).attempt.run [] u = (u', .finished (.ok r)) ∧
      (Job.transfer o).Writes r u u' ∧ Orderly u' [] ∧ u'.transactions = [] := by
  have check := covered.check
  obtain ⟨x, hx, y, hy, hxid, hyid, hchange⟩ :=
    TransferOrder.exists_change covered.first covered.second
  have fresh : Alone o u .fresh u :=
    ⟨ord, trivial, rfl, rfl, by simp [Store.tickets, quiet, ticket?]⟩
  have carried : Carried o u [] now (Alone o u) := Alone.carried check
  obtain ⟨t, f, d, c, s, full, _, _, _, hrun⟩ :=
    carried.exists_run fresh (TransferOrder.not_le_of_check check) hx hxid hy hyid
  rw [hchange] at full hrun
  have hcommit := Store.perform_commit (full.orderly.transaction?_eq_some full.stands.1) now
  have leads := full.leads check hcommit
  have hattempt := attempt_eq o
  rw [check] at hattempt
  cases leads with
  | done writes tickets =>
    have quiet' := List.map_eq_nil_iff.mp (tickets [] full.tickets).eq_nil
    refine ⟨_, _, ?_, writes.of_tables full.tables full.issued,
      full.orderly.of_answered hcommit, quiet'⟩
    rw [hattempt]
    exact hrun.trans (run_finish hcommit rfl)

end Stage
end Giro
