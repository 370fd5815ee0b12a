import Giro.Proofs.Aftermath
import Giro.Proofs.Journal

/-!
# How a transfer ends

Where nobody has the rows of its two accounts a transfer never waits, so its end can be read off the
store at which it starts: it is refused for its form, for an account that is missing or for a sum
out of range, or else it is posted and shows what everybody reads from then on. `Run.transfer_ends`
says which, and what is left.
-/

namespace Giro

open Traffic

/-! ## Sums in range -/

namespace Account

variable {x : Account} {amount : Amount}

theorem exists_plus_iff :
    (∃ a, x.plus amount = .ok a) ↔ Amount.InRange (x.balance.toInt + amount.toInt) := by
  constructor
  · rintro ⟨a, h⟩
    obtain ⟨balance, hsum, _⟩ := plus_eq_ok_iff.mp h
    exact hsum ▸ balance.inRange_toInt
  · intro h
    exact ⟨_, plus_eq_ok_iff.mpr ⟨_, Amount.toInt_ofInt h, rfl⟩⟩

theorem eq_of_plus_error {e : StoreError} (h : x.plus amount = .error e) :
    e = .constraint .balanceOutOfRange := by
  unfold plus at h
  split at h
  · cases h
  · exact (Except.error.inj h).symm

end Account

namespace TransferOrder

variable (o : TransferOrder)

/-- Whether the sums of a transfer between two rows are in range. What an account sends to itself
arrives before it leaves. -/
def Fits (source target : Account) : Prop :=
  if o.source = o.target then source.balance.toInt + o.amount.toInt ≤ 2 ^ 63 - 1
  else -2 ^ 63 ≤ source.balance.toInt - o.amount.toInt ∧
    target.balance.toInt + o.amount.toInt ≤ 2 ^ 63 - 1

instance (source target : Account) : Decidable (o.Fits source target) :=
  inferInstanceAs (Decidable (if o.source = o.target then (_ : Int) ≤ _ else (_ : Int) ≤ _ ∧ _ ≤ _))

variable {o} {x y a b : Account}

theorem ordered_of {P : Int → Prop} (source : P o.source) (target : P o.target) :
    P o.first ∧ P o.second := by
  unfold first second
  by_cases h : o.source < o.target
  · rw [if_pos h, if_pos h]
    exact ⟨source, target⟩
  · rw [if_neg h, if_neg h]
    exact ⟨target, source⟩

theorem eq_of_change_error {e : StoreError} (h : o.change x y = .error e) :
    e = .constraint .balanceOutOfRange := by
  unfold change at h
  cases hx : x.plus o.firstAmount with
  | error e' =>
    rw [hx] at h
    cases h
    exact Account.eq_of_plus_error hx
  | ok a =>
    simp only [hx, Except.bind] at h
    cases hy : (Transaction.setBalance a.id a.balance y).plus o.secondAmount with
    | error e' =>
      rw [hy] at h
      cases h
      exact Account.eq_of_plus_error hy
    | ok b =>
      rw [hy] at h
      cases h

/-- The balance of the second row once the first one has been changed. -/
theorem balance_of_plus {amount : Amount} (h : x.plus amount = .ok a) :
    (Transaction.setBalance a.id a.balance y).balance.toInt =
      if y.id = x.id then x.balance.toInt + amount.toInt else y.balance.toInt := by
  obtain ⟨balance, hsum, rfl⟩ := Account.plus_eq_ok_iff.mp h
  unfold Transaction.setBalance
  split
  · exact hsum
  · rfl

theorem exists_change_iff : (∃ p, o.change x y = .ok p) ↔
    Amount.InRange (x.balance.toInt + o.firstAmount.toInt) ∧
      Amount.InRange ((if y.id = x.id then x.balance.toInt + o.firstAmount.toInt
        else y.balance.toInt) + o.secondAmount.toInt) := by
  rw [← Account.exists_plus_iff]
  constructor
  · rintro ⟨⟨a, b⟩, h⟩
    obtain ⟨hx, hy⟩ := change_eq_ok_iff.mp h
    exact ⟨⟨a, hx⟩, balance_of_plus hx ▸ Account.exists_plus_iff.mp ⟨b, hy⟩⟩
  · rintro ⟨⟨a, hx⟩, hrange⟩
    obtain ⟨b, hy⟩ := Account.exists_plus_iff.mpr (balance_of_plus hx ▸ hrange)
    exact ⟨(a, b), change_eq_ok_iff.mpr ⟨hx, hy⟩⟩

/-- The rows of a transfer in the order in which they are locked, and when their sums fit. -/
theorem exists_rows {rows : List Account} (nodup : (rows.map Account.id).Nodup)
    (hpos : 0 < o.amount.toInt) (ha : a ∈ rows) (hb : b ∈ rows) (source : a.id = o.source)
    (target : b.id = o.target) : ∃ x ∈ rows, ∃ y ∈ rows, x.id = o.first ∧ y.id = o.second ∧
      ((∃ p, o.change x y = .ok p) ↔ o.Fits a b) := by
  have hneg := Amount.toInt_neg_of_pos hpos
  have ha' := a.balance.inRange_toInt
  have hb' := b.balance.inRange_toInt
  unfold Amount.InRange at ha' hb'
  by_cases h : o.source < o.target
  · refine ⟨a, ha, b, hb, by rw [first, if_pos h, source], by rw [second, if_pos h, target], ?_⟩
    rw [exists_change_iff, firstAmount, secondAmount, if_pos h, if_pos h, Fits]
    rw [if_neg (by omega), if_neg (by omega), hneg]
    unfold Amount.InRange
    omega
  · refine ⟨b, hb, a, ha, by rw [first, if_neg h, target], by rw [second, if_neg h, source], ?_⟩
    rw [exists_change_iff, firstAmount, secondAmount, if_neg h, if_neg h, Fits]
    by_cases same : o.source = o.target
    -- The second sum takes back what the first has added, so only the first can be out of range.
    · have : a = b := List.inj_on_of_nodup_map nodup ha hb (by omega)
      subst this
      rw [if_pos same, if_pos rfl, hneg]
      unfold Amount.InRange
      omega
    · rw [if_neg (by omega), if_neg same, hneg]
      unfold Amount.InRange
      omega

end TransferOrder

/-! ## A transfer that nobody is in the way of -/

theorem Store.forall_requests_of_holder? {s : Store} {id : Int} (h : s.holder? id = none) :
    ∀ r ∈ s.requests, r.account ≠ id := by
  simpa [holder?] using h

theorem Store.exists_stageTransfer_missing {s : Store} {t : Nat} {source target : Int}
    {amount : Amount} (isOpen : (s.transaction? t).isSome) (hamount : ¬ amount ≤ 0)
    (missing : s.tables.account? source = none ∨ s.tables.account? target = none)
    (now : Timestamp) : ∃ id, s.perform now (.stageTransfer t source target amount) =
      (s, .answered (.error (.constraint (.transferAccountMissing id)))) := by
  have hopen : ¬ (s.transaction? t).isNone := by simpa [Option.isSome_iff_ne_none] using isOpen
  by_cases hsource : s.tables.account? source = none
  · refine ⟨source, ?_⟩
    simp only [perform, stageTransfer, if_neg hopen, if_neg hamount, hsource]
    rfl
  · have htarget := missing.resolve_left hsource
    refine ⟨target, ?_⟩
    have hsource' : ¬ (s.tables.account? source).isNone := by simpa using hsource
    simp only [perform, stageTransfer, if_neg hopen, if_neg hamount, if_neg hsource', htarget]
    rfl

namespace Stage

variable {o : TransferOrder} {u s s' : Store} {ws : List Waiting} {now : Timestamp} {st : Stage}
    {x y : Account}

/-- From a stage on, a transfer comes to its result without having to wait. -/
def ComesTo (o : TransferOrder) (now : Timestamp) (st : Stage) (s : Store)
    (result : Except StoreError Receipt) : Prop :=
  ∃ s', Backend.memory.run now (st.program o) st.ticket?.toList s = (s', .finished result)

namespace Apart

theorem comesTo_failed {t : Nat} {cause : StoreError} (apart : Apart o u ws (.failed t cause) s)
    (now : Timestamp) : ComesTo o now (.failed t cause) s (.error cause) := by
  have h : s.perform now (Stage.call o (.failed t cause)) = (s.discard t, .answered (.ok ())) :=
    Store.perform_rollback (Store.isSome_transaction?_iff.mpr apart.stands) now
  exact ⟨_, run_finish h rfl⟩

theorem comesTo_full {t : Nat} {f : Transfer} {d c : Entry} {a b : Account}
    (apart : Apart o u ws (.full t f d c a b) s) (now : Timestamp) :
    ComesTo o now (.full t f d c a b) s (.ok (.posted (o.posted f d c a b))) := by
  have hcommit := Store.perform_commit (apart.orderly.transaction?_eq_some apart.stands.1) now
  exact ⟨_, run_finish hcommit rfl⟩

/-- A row that nobody had at the start can only have been asked for by the transfer. -/
theorem own {t : Nat} {id : Int} (apart : Apart o u ws st s) (ht : st.ticket? = some t)
    (idle : u.holder? id = none) : ∀ r ∈ s.requests, r.account = id → r.ticket = t := by
  intro r hr haccount
  obtain ⟨rfl, hprivate⟩ := apart.begun t ht
  by_contra other
  have hmem : r ∈ s.requests.filter fun r => r.ticket ≠ u.begin.1 :=
    List.mem_filter.mpr ⟨hr, by simpa using other⟩
  rw [hprivate.requests] at hmem
  exact Store.forall_requests_of_holder? idle r (List.mem_filter.mp hmem).1 haccount

variable (check : o.check = .ok ())
include check

theorem carried (first : u.holder? o.first = none) (second : u.holder? o.second = none) :
    Carried o u ws now fun st s => Apart o u ws st s where
  undisturbed apart := {
    orderly := apart.orderly
    stands := apart.stands
    tables := apart.tables
    free := fun _ ht => apart.admits.free (call_ticket? ht)
    own := fun _ ht r hr haccount =>
      haccount.elim (apart.own ht first r hr) (apart.own ht second r hr) }
  next apart h hnext := apart.next h check hnext

/-- An account that is missing is missed at once. -/
theorem comesTo_missing (apart : Apart o u ws .fresh u)
    (missing : u.tables.account? o.source = none ∨ u.tables.account? o.target = none)
    (now : Timestamp) : ∃ id, ComesTo o now .fresh u
      (.error (.constraint (.transferAccountMissing id))) := by
  have hbegin : u.perform now (Stage.call o .fresh) = (u.begin.2, .answered (.ok u.begin.1)) := rfl
  have begun := apart.next hbegin check rfl
  obtain ⟨id, h⟩ := Store.exists_stageTransfer_missing (Store.isOpen_of_mem begun.stands)
    (TransferOrder.not_le_of_check check) missing now
  obtain ⟨s', hend⟩ := (begun.next h check rfl).comesTo_failed now
  exact ⟨id, s', (run_next hbegin rfl).trans ((run_next h rfl).trans hend)⟩

theorem comesTo_found (apart : Apart o u ws .fresh u) (first : u.holder? o.first = none)
    (second : u.holder? o.second = none) (hx : x ∈ u.tables.accounts) (hxid : x.id = o.first)
    (hy : y ∈ u.tables.accounts) (hyid : y.id = o.second) (now : Timestamp) :
    ComesTo o now .fresh u ((o.change x y).map fun p =>
      .posted (o.posted (o.transferOf u.issued now) (o.debitOf u.issued now)
        (o.creditOf u.issued now) p.1 p.2)) := by
  have carried : Carried o u ws now fun st s => Apart o u ws st s := carried check first second
  obtain ⟨t, _, _, _, s, changed, rfl, rfl, rfl, hrun⟩ :=
    carried.exists_run apart (TransferOrder.not_le_of_check check) hx hxid hy hyid
  cases hchange : o.change x y with
  | error e =>
    rw [hchange] at changed hrun
    obtain ⟨s', hend⟩ := changed.comesTo_failed now
    exact ⟨s', hrun.trans hend⟩
  | ok p =>
    rw [hchange] at changed hrun
    obtain ⟨s', hend⟩ := changed.comesTo_full now
    exact ⟨s', hrun.trans hend⟩

end Apart

end Stage

/-! ## What a posted transfer shows -/

/-- What a posted transfer shows is what a store gives back. -/
structure Posted.Reads (p : Posted) (s : Store) : Prop where
  transfer : s.getTransfer p.transfer.id = .ok p.transfer
  debit : s.getEntry p.debit.id = .ok p.debit
  credit : s.getEntry p.credit.id = .ok p.credit
  source : s.getAccount p.transfer.source = .ok p.source
  target : s.getAccount p.transfer.target = .ok p.target

theorem Account.Changed.mem_setBalance {rows : List Account} {id : Int} {amount : Amount}
    {a : Account} (h : Account.Changed rows id amount a) :
    a ∈ rows.map (Transaction.setBalance a.id a.balance) := by
  obtain ⟨x, hx, _, hagrees, _⟩ := h
  refine List.mem_map.mpr ⟨x, hx, ?_⟩
  rw [Transaction.setBalance, if_pos hagrees.id_eq.symm]
  exact hagrees

/-- The rows that a transfer shows are those that it leaves. -/
theorem TransferOrder.sides_mem {o : TransferOrder} {rows : List Account} {a b : Account}
    (first : Account.Changed rows o.first o.firstAmount a)
    (second : Account.Changed (rows.map (Transaction.setBalance a.id a.balance)) o.second
      o.secondAmount b) :
    ((o.sides a b).1 ∈ (rows.map (Transaction.setBalance a.id a.balance)).map
        (Transaction.setBalance b.id b.balance) ∧ (o.sides a b).1.id = o.source) ∧
      (o.sides a b).2 ∈ (rows.map (Transaction.setBalance a.id a.balance)).map
        (Transaction.setBalance b.id b.balance) ∧ (o.sides a b).2.id = o.target := by
  have hb := second.mem_setBalance
  have ha (different : a.id ≠ b.id) : a ∈ (rows.map (Transaction.setBalance a.id a.balance)).map
      (Transaction.setBalance b.id b.balance) := by
    refine List.mem_map.mpr ⟨a, first.mem_setBalance, ?_⟩
    rw [Transaction.setBalance, if_neg different]
  have haid := first.id_eq
  have hbid := second.id_eq
  unfold TransferOrder.first at haid
  unfold TransferOrder.second at hbid
  unfold sides
  by_cases h : o.source < o.target
  · rw [if_pos h] at haid hbid ⊢
    exact ⟨⟨ha (by omega), haid⟩, hb, hbid⟩
  · rw [if_neg h] at haid hbid ⊢
    by_cases same : o.source = o.target
    · rw [if_pos same]
      exact ⟨⟨hb, hbid⟩, hb, hbid.trans same⟩
    · rw [if_neg same]
      exact ⟨⟨hb, hbid⟩, ha (by omega), haid⟩

theorem Job.Writes.reads {o : TransferOrder} {r : Receipt} {s s' : Store} {ws : List Waiting}
    {history : List Event} (h : (Job.transfer o).Writes r s s') (run : Run history ⟨s', ws⟩) :
    ∀ p, r = .posted p → p.Reads s' := by
  cases h with
  | @transfer _ _ _ f d c a b check records debit credit first second tables issued =>
    rintro _ ⟨rfl⟩
    obtain ⟨⟨hsource, hsid⟩, htarget, htid⟩ := TransferOrder.sides_mem first second
    have entry {e : Entry} (he : e ∈ [d, c]) : s'.getEntry e.id = .ok e := by
      have hmem : e ∈ s'.tables.entries := by
        rw [tables]
        exact Store.Table.mem_insertAll.mpr (Or.inl he)
      exact run.reads (List.mem_append_left _ (List.mem_map_of_mem (f := Record.entry) hmem))
    have transfer : s'.getTransfer f.id = .ok f := by
      have hmem : f ∈ s'.tables.transfers := by
        rw [tables]
        exact Store.Table.mem_insertAll.mpr (Or.inl List.mem_cons_self)
      exact run.reads (List.mem_append_right _ (List.mem_map_of_mem (f := Record.transfer) hmem))
    have account {x : Account} {n : Int} (hx : x ∈ s'.tables.accounts) (hid : x.id = n) :
        s'.getAccount n = .ok x :=
      Store.getAccount_eq_ok_iff.mpr (hid ▸ run.orderly.account?_eq_some hx)
    have haccounts : s'.tables.accounts =
        (s.tables.accounts.map (Transaction.setBalance a.id a.balance)).map
          (Transaction.setBalance b.id b.balance) := by rw [tables]
    rw [← haccounts] at hsource htarget
    obtain ⟨fsource, ftarget, _⟩ := records
    exact ⟨transfer, entry List.mem_cons_self, entry (List.mem_cons_of_mem _ List.mem_cons_self),
      account hsource (hsid.trans fsource.symm), account htarget (htid.trans ftarget.symm)⟩

/-! ## The end of a transfer -/

namespace TransferOrder

/-- An order that is refused before the store is asked. -/
def IllFormed (o : TransferOrder) : Prop := o.source ≤ 0 ∨ o.target ≤ 0 ∨ o.amount ≤ 0

instance (o : TransferOrder) : Decidable o.IllFormed := inferInstanceAs (Decidable (_ ∨ _ ∨ _))

/-- A constraint of a kind has refused a transfer, and no table has changed. -/
structure Refused (kind : Constraint) (s s' : Store) (result : Except StoreError Posted) :
    Prop where
  tables : s'.tables = s.tables
  error : ∃ breach : Breach, breach.constraint = kind ∧ result = .error (.constraint breach)

/-- What a posted transfer shows and what it has done: its rows have the next numbers, money has
moved between its accounts and nowhere else, and whatever it shows can be read back. -/
structure Done (o : TransferOrder) (now : Timestamp) (s s' : Store) (p : Posted) : Prop where
  transfer : p.transfer = o.transferOf s.issued now
  debit : p.debit = o.debitOf s.issued now
  credit : p.credit = o.creditOf s.issued now
  moves : o.Moves p s.tables s'.tables
  reads : p.Reads s'

/-- How a transfer ends, by its form, its accounts and their balances. -/
structure Ends (o : TransferOrder) (now : Timestamp) (s s' : Store)
    (result : Except StoreError Posted) : Prop where
  locks : s.SameLocks s'
  ill_formed : o.IllFormed → s' = s ∧ ∃ why, result = .error (.invalid why)
  missing : ¬ o.IllFormed →
    s.tables.account? o.source = none ∨ s.tables.account? o.target = none →
    Refused .foreignKey s s' result
  covered : ¬ o.IllFormed → ∀ a b, s.tables.account? o.source = some a →
    s.tables.account? o.target = some b →
    ((∃ p, result = .ok p) ↔ o.Fits a b) ∧ (¬ o.Fits a b → Refused .other s s' result)
  done : ∀ p, result = .ok p → o.Done now s s' p

variable {o : TransferOrder} {s s' : Store} {ws : List Waiting} {history : List Event}
    {now : Timestamp}

theorem ends_of_illFormed {why : Invalid} (h : o.check = .error why) :
    o.Ends now s s (.error (.invalid why)) := by
  have illFormed : o.IllFormed := by
    by_contra wellFormed
    rw [check_eq_ok_iff_pos.mpr wellFormed] at h
    cases h
  constructor
  · exact .refl s
  · exact fun _ => ⟨rfl, why, rfl⟩
  · exact fun wellFormed => absurd illFormed wellFormed
  · exact fun wellFormed => absurd illFormed wellFormed
  · intro p hp
    cases hp

/-- The program that posts comes to what its stages come to, and leaves what they leave. -/
theorem run_post (run : Run history ⟨s, ws⟩) (check : o.check = .ok ())
    {result : Except StoreError Receipt} (h : Stage.ComesTo o now .fresh s result) :
    ∃ s', Backend.memory.run now o.post.run [] s =
        (s', .finished (Permitted.unwrapped Receipt.posted? result)) ∧
      Leaves s (fun r s' => ((Job.transfer o).Writes r s s' ∧ r.IsNew s.tables) ∧
        ∃ history, Run history ⟨s', ws⟩) (s', .finished result) := by
  obtain ⟨s', hrun⟩ := h
  refine ⟨s', ?_, ?_⟩
  · have hattempt := Stage.attempt_eq o
    rw [check] at hattempt
    simp only [Stage.ticket?, Option.toList_none] at hrun
    rw [Permitted.run_eq_unwrapped (j := .transfer o) .posted rfl Receipt.posted? fun _ => rfl,
      Backend.run_map, hattempt, hrun]
    rfl
  · rw [← hrun]
    exact Stage.leaves_of_apart rfl (Stage.Apart.fresh run) check now

theorem exists_ends_of_missing (run : Run history ⟨s, ws⟩) (check : o.check = .ok ())
    (missing : s.tables.account? o.source = none ∨ s.tables.account? o.target = none) :
    ∃ s' result, Backend.memory.run now o.post.run [] s = (s', .finished result) ∧
      o.Ends now s s' result := by
  obtain ⟨id, comes⟩ := (Stage.Apart.fresh run).comesTo_missing check missing now
  obtain ⟨s', hrun, leaves⟩ := run_post run check comes
  cases leaves with
  | failure same =>
    refine ⟨s', _, hrun, same.locks, ?_, ?_, ?_, ?_⟩
    · exact fun illFormed => absurd illFormed (check_eq_ok_iff_pos.mp check)
    · exact fun _ _ => ⟨same.tables, _, rfl, rfl⟩
    · intro _ a b ha hb
      rw [ha, hb] at missing
      simp at missing
    · intro p hp
      cases hp

/-- Where both accounts are there, their balances decide. -/
theorem ends_of_covered {result : Except StoreError Posted} {a b : Account}
    (check : o.check = .ok ()) (ha : s.tables.account? o.source = some a)
    (hb : s.tables.account? o.target = some b) (locks : s.SameLocks s')
    (fits : (∃ p, result = .ok p) ↔ o.Fits a b)
    (unfit : ¬ o.Fits a b → Refused .other s s' result)
    (done : ∀ p, result = .ok p → o.Done now s s' p) : o.Ends now s s' result := by
  refine ⟨locks, ?_, ?_, ?_, done⟩
  · exact fun illFormed => absurd illFormed (check_eq_ok_iff_pos.mp check)
  · intro _ missing
    rw [ha, hb] at missing
    simp at missing
  · intro _ a' b' ha' hb'
    cases ha.symm.trans ha'
    cases hb.symm.trans hb'
    exact ⟨fits, unfit⟩

theorem exists_ends_of_found (run : Run history ⟨s, ws⟩) (check : o.check = .ok ())
    (source : s.holder? o.source = none) (target : s.holder? o.target = none) {a b : Account}
    (ha : s.tables.account? o.source = some a) (hb : s.tables.account? o.target = some b) :
    ∃ s' result, Backend.memory.run now o.post.run [] s = (s', .finished result) ∧
      o.Ends now s s' result := by
  obtain ⟨hma, haid⟩ := Tables.mem_of_account? ha
  obtain ⟨hmb, hbid⟩ := Tables.mem_of_account? hb
  obtain ⟨x, hx, y, hy, hxid, hyid, fits⟩ :=
    exists_rows run.orderly.accounts_nodup (amount_pos check) hma hmb haid hbid
  obtain ⟨first, second⟩ := ordered_of (P := fun n => s.holder? n = none) source target
  have comes := (Stage.Apart.fresh run).comesTo_found check first second hx hxid hy hyid now
  obtain ⟨s', hrun, leaves⟩ := run_post run check comes
  cases hchange : o.change x y with
  | error e =>
    rw [hchange] at hrun leaves
    cases eq_of_change_error hchange
    have unfit : ¬ o.Fits a b := by
      rw [← fits, hchange]
      rintro ⟨_, h⟩
      cases h
    cases leaves with
    | failure same =>
      refine ⟨s', .error (.constraint .balanceOutOfRange), hrun,
        ends_of_covered check ha hb same.locks ?_ ?_ ?_⟩
      · refine iff_of_false ?_ unfit
        rintro ⟨p, hp⟩
        cases hp
      · exact fun _ => ⟨same.tables, _, rfl, rfl⟩
      · intro p hp
        cases hp
  | ok p =>
    rw [hchange] at hrun leaves
    have fits := fits.mp ⟨p, hchange⟩
    cases leaves with
    | success posts locks =>
      obtain ⟨⟨writes, new⟩, _, run'⟩ := posts
      obtain ⟨_, ⟨rfl⟩, moves⟩ := writes.moves new run.orderly
      refine ⟨s', _, hrun, ends_of_covered check ha hb locks ?_ ?_ ?_⟩
      · exact iff_of_true ⟨_, rfl⟩ fits
      · exact fun unfit => absurd fits unfit
      · rintro _ ⟨rfl⟩
        exact ⟨rfl, rfl, rfl, moves, writes.reads run' _ rfl⟩

end TransferOrder

/-- Nobody has the row of either account of a transfer. The transfer then ends at once, by its form,
its accounts and their balances alone, and every row that it shows can be read back. -/
theorem Traffic.Run.transfer_ends {history : List Event} {s : Store} {ws : List Waiting}
    (run : Run history ⟨s, ws⟩) (o : TransferOrder) (source : s.holder? o.source = none)
    (target : s.holder? o.target = none) (now : Timestamp) :
    ∃ s' result, Backend.memory.run now o.post.run [] s = (s', .finished result) ∧
      o.Ends now s s' result := by
  cases check : o.check with
  | error why =>
    refine ⟨s, .error (.invalid why), ?_, TransferOrder.ends_of_illFormed check⟩
    unfold TransferOrder.post
    rw [check]
    rfl
  | ok u =>
    cases ha : s.tables.account? o.source with
    | none => exact TransferOrder.exists_ends_of_missing run check (Or.inl ha)
    | some a =>
      cases hb : s.tables.account? o.target with
      | none => exact TransferOrder.exists_ends_of_missing run check (Or.inr hb)
      | some b => exact TransferOrder.exists_ends_of_found run check source target ha hb

/-- All that an amount can hold, out of one empty account and into another. -/
def sampleLimit : TransferOrder := ⟨1, 2, 9223372036854775807⟩

theorem Traffic.Run.transfer_ends_of_limit :
    (∃ history, Run history ⟨sampleStore, []⟩) ∧ sampleStore.holder? sampleLimit.source = none ∧
    sampleStore.holder? sampleLimit.target = none ∧
    ∃ s' p, Backend.memory.run .epoch sampleLimit.post.run [] sampleStore =
      (s', .finished (.ok p)) ∧ sampleLimit.Done .epoch sampleStore s' p := by
  obtain ⟨⟨history, run⟩, _⟩ := settled_sampleStore
  obtain ⟨s', result, hrun, ends⟩ := run.transfer_ends sampleLimit rfl rfl .epoch
  have fits : sampleLimit.Fits ⟨1, "ada", 0, .usd, .epoch⟩ ⟨2, "bob", 0, .usd, .epoch⟩ := by decide
  obtain ⟨p, rfl⟩ := (ends.covered (by decide) _ _ rfl rfl).1.mpr fits
  exact ⟨⟨history, run⟩, rfl, rfl, s', p, hrun, ends.done p rfl⟩

end Giro
