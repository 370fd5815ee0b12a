import Mathlib.Algebra.BigOperators.Group.List.Basic
import Mathlib.Algebra.Ring.Int.Defs
import Giro.Proofs.Pools

/-!
# Double entry

The committed entries are the two sides of the committed transfers, and nothing else has moved a
balance since an account was opened. That is kept by every job that commits, and nothing but whole
jobs commits.
-/

namespace Giro

/-- What an entry says: an account and a change of its balance. -/
def Entry.posting (e : Entry) : Int × Int := (e.account, e.amount.toInt)

/-- The two sides of a transfer. -/
def Transfer.postings (f : Transfer) : List (Int × Int) :=
  [(f.source, -f.amount.toInt), (f.target, f.amount.toInt)]

def Entry.sumOn (id : Int) (entries : List Entry) : Int :=
  ((entries.filter fun e => e.account = id).map fun e => e.amount.toInt).sum

namespace Entry

variable {id : Int} {entries entries' : List Entry} {e : Entry}

theorem sumOn_perm (h : entries.Perm entries') : sumOn id entries = sumOn id entries' :=
  ((h.filter _).map _).sum_eq

theorem sumOn_cons :
    sumOn id (e :: entries) =
      (if e.account = id then e.amount.toInt else 0) + sumOn id entries := by
  unfold sumOn
  by_cases h : e.account = id <;> simp [h]

theorem sumOn_eq_zero (h : ∀ e ∈ entries, e.account ≠ id) : sumOn id entries = 0 := by
  have : entries.filter (fun e => e.account = id) = [] :=
    List.filter_eq_nil_iff.mpr fun e he => by simpa using h e he
  simp [sumOn, this]

theorem sum_sumOn {ids : List Int} (nodup : ids.Nodup) (h : ∀ e ∈ entries, e.account ∈ ids) :
    (ids.map fun id => sumOn id entries).sum = (entries.map fun e => e.amount.toInt).sum := by
  induction entries with
  | nil => simp [sumOn]
  | cons e entries ih =>
    have hmem := h e List.mem_cons_self
    have hone : (ids.map fun id => if e.account = id then e.amount.toInt else 0).sum =
        e.amount.toInt := by
      simp only [eq_comm (a := e.account), List.sum_map_ite_eq, List.count_eq_one_of_mem nodup hmem]
      simp
    have hsplit : (ids.map fun id => sumOn id (e :: entries)) =
        ids.map fun id => (if e.account = id then e.amount.toInt else 0) + sumOn id entries :=
      List.map_congr_left fun id _ => sumOn_cons
    rw [hsplit, List.sum_map_add, hone, ih fun e' he' => h e' (List.mem_cons_of_mem _ he')]
    rfl

end Entry

theorem Transfer.sum_postings (fs : List Transfer) :
    ((fs.flatMap Transfer.postings).map Prod.snd).sum = 0 := by
  induction fs with
  | nil => rfl
  | cons f fs ih =>
    simp only [Transfer.postings, List.flatMap_cons, List.map_append, List.sum_append, ih,
      List.map_cons, List.map_nil, List.sum_cons, List.sum_nil]
    omega

namespace Account

variable {rows : List Account} {id : Int} {amount : Amount} {a x : Account}

/-- A changed row in its place changes the balance of its account and of no other. -/
theorem Changed.balance_setBalance (h : Changed rows id amount a)
    (nodup : (rows.map Account.id).Nodup) (hx : x ∈ rows) :
    (Transaction.setBalance a.id a.balance x).balance.toInt =
      x.balance.toInt + if x.id = id then amount.toInt else 0 := by
  have hid := h.id_eq
  obtain ⟨y, hy, hyid, _, hsum⟩ := h
  unfold Transaction.setBalance
  by_cases hxid : x.id = id
  · have : x = y := List.inj_on_of_nodup_map nodup hx hy (hxid.trans hyid.symm)
    subst this
    rw [if_pos (hxid.trans hid.symm), if_pos hxid]
    exact hsum
  · rw [if_neg fun heq => hxid (heq.trans hid), if_neg hxid]
    omega

end Account

theorem TransferOrder.sides_sum {o : TransferOrder} (hpos : 0 < o.amount.toInt) (id : Int) :
    (if id = o.first then o.firstAmount.toInt else 0) +
        (if id = o.second then o.secondAmount.toInt else 0) =
      (if o.source = id then (-o.amount).toInt else 0) +
        if o.target = id then o.amount.toInt else 0 := by
  have hneg := Amount.toInt_neg_of_pos hpos
  unfold TransferOrder.first TransferOrder.second TransferOrder.firstAmount
    TransferOrder.secondAmount
  by_cases h : o.source < o.target
  · simp only [if_pos h, eq_comm (a := id)]
  · simp only [if_neg h, eq_comm (a := id)]
    omega

/-- What a transfer does to the balance of an account. -/
theorem TransferOrder.balance_change {o : TransferOrder} {rows : List Account} {a b x : Account}
    (nodup : (rows.map Account.id).Nodup) (hpos : 0 < o.amount.toInt)
    (first : Account.Changed rows o.first o.firstAmount a)
    (second : Account.Changed (rows.map (Transaction.setBalance a.id a.balance)) o.second
      o.secondAmount b) (hx : x ∈ rows) :
    (Transaction.setBalance b.id b.balance
        (Transaction.setBalance a.id a.balance x)).balance.toInt =
      x.balance.toInt + ((if o.source = x.id then (-o.amount).toInt else 0) +
        if o.target = x.id then o.amount.toInt else 0) := by
  have h₁ := first.balance_setBalance nodup hx
  have h₂ := second.balance_setBalance (by rw [Account.ids_setBalance]; exact nodup)
    (List.mem_map_of_mem hx)
  have hsides := sides_sum hpos x.id
  rw [Transaction.id_setBalance] at h₂
  omega

namespace Pool

variable {w w' : Pool} {s s' : Store} {os : List Account}

/-- The accounts as they were opened, the latest first. -/
def openings (w : Pool) : List Account := w.successes.filterMap fun f => f.2.opened?

def opening? (w : Pool) (id : Int) : Option Account := w.openings.find? fun a => a.id == id

/-- The books of a store where these accounts were opened. -/
structure Books (os : List Account) (s : Store) : Prop where
  postings : (s.tables.entries.map Entry.posting).Perm
    (s.tables.transfers.flatMap Transfer.postings)
  balance : ∀ a ∈ s.tables.accounts, ∃ opening ∈ os, opening.id = a.id ∧
    a.balance.toInt = opening.balance.toInt + Entry.sumOn a.id s.tables.entries
  entries_named : ∀ e ∈ s.tables.entries, ∃ a ∈ s.tables.accounts, a.id = e.account
  transfers_named : ∀ f ∈ s.tables.transfers, (∃ a ∈ s.tables.accounts, a.id = f.source) ∧
    ∃ a ∈ s.tables.accounts, a.id = f.target
  openings_nodup : (os.map Account.id).Nodup
  openings_issued : ∀ opening ∈ os, opening.id ≤ s.issued.account

namespace Books

theorem of_tables (h : Books os s) (haccounts : s'.tables.accounts = s.tables.accounts)
    (hentries : s'.tables.entries = s.tables.entries)
    (htransfers : s'.tables.transfers = s.tables.transfers)
    (hissued : s'.issued.account = s.issued.account) : Books os s' := by
  constructor
  · rw [hentries, htransfers]; exact h.postings
  · rw [haccounts, hentries]; exact h.balance
  · rw [haccounts, hentries]; exact h.entries_named
  · rw [haccounts, htransfers]; exact h.transfers_named
  · exact h.openings_nodup
  · rw [hissued]; exact h.openings_issued

variable {ws : List Waiting} (h : Books os s) (ord : Traffic.Orderly s ws)
include h ord

theorem openAccount {new : NewAccount} {now : Timestamp} {a : Account}
    (hs : s.createAccount new now = .ok (a, s')) : Books (a :: os) s' := by
  obtain ⟨_, _, ha, rfl⟩ := Store.createAccount_eq_ok_iff.mp hs
  have hid : a.id = s.issued.account + 1 := by rw [ha]
  have named : ∀ {p : Account → Prop}, (∃ b ∈ s.tables.accounts, p b) →
      ∃ b ∈ s.tables.accounts ++ [a], p b :=
    fun ⟨b, hb, hp⟩ => ⟨b, List.mem_append_left _ hb, hp⟩
  refine ⟨h.postings, ?_, fun e he => named (h.entries_named e he),
    fun f hf => ⟨named (h.transfers_named f hf).1, named (h.transfers_named f hf).2⟩, ?_, ?_⟩
  · intro b hb
    rcases List.mem_append.mp hb with hb | hb
    · obtain ⟨opening, hopening, hrest⟩ := h.balance b hb
      exact ⟨opening, List.mem_cons_of_mem _ hopening, hrest⟩
    · rw [List.mem_singleton.mp hb]
      refine ⟨a, List.mem_cons_self, rfl, ?_⟩
      have hzero : Entry.sumOn a.id s.tables.entries = 0 := Entry.sumOn_eq_zero fun e he heq => by
        obtain ⟨c, hc, hce⟩ := h.entries_named e he
        have := (ord.accounts_issued c hc).2
        omega
      change a.balance.toInt = a.balance.toInt + Entry.sumOn a.id s.tables.entries
      omega
  · refine List.nodup_cons.mpr ⟨fun hm => ?_, h.openings_nodup⟩
    obtain ⟨opening, hopening, heq⟩ := List.mem_map.mp hm
    have := h.openings_issued opening hopening
    omega
  · intro opening hopening
    simp only
    rcases List.mem_cons.mp hopening with rfl | hopening
    · omega
    · have := h.openings_issued opening hopening
      omega

omit ord in
theorem closeAccount {id : Int} {r : Receipt} (writes : (Job.closeAccount id).Writes r s s') :
    Books os s' := by
  cases writes with
  | closeAccount _ unnamed tables issued =>
    have named : ∀ n, n ≠ id → (∃ a ∈ s.tables.accounts, a.id = n) →
        ∃ a ∈ s'.tables.accounts, a.id = n := by
      rintro n hne ⟨a, ha, rfl⟩
      refine ⟨a, ?_, rfl⟩
      rw [tables]
      exact List.mem_filter.mpr ⟨ha, by simpa using hne⟩
    unfold Tables.IsReferenced at unnamed
    push Not at unnamed
    constructor
    · rw [tables]
      exact h.postings
    · intro a ha
      rw [tables] at ha ⊢
      exact h.balance a (List.mem_of_mem_filter ha)
    · intro e he
      rw [tables] at he
      exact named _ (unnamed.1 e he) (h.entries_named e he)
    · intro f hf
      rw [tables] at hf
      exact ⟨named _ (unnamed.2 f hf).1 (h.transfers_named f hf).1,
        named _ (unnamed.2 f hf).2 (h.transfers_named f hf).2⟩
    · exact h.openings_nodup
    · rw [issued]
      exact h.openings_issued

theorem transfer {o : TransferOrder} {r : Receipt} (writes : (Job.transfer o).Writes r s s') :
    Books os s' := by
  cases writes with
  | @transfer _ _ _ f d c a b check records debit credit first second tables issued =>
    have hpos := TransferOrder.amount_pos check
    have hneg := Amount.toInt_neg_of_pos hpos
    obtain ⟨hsource, htarget, hamount⟩ := records
    obtain ⟨hd, hda⟩ := debit
    obtain ⟨hc, hca⟩ := credit
    have entries_perm : s'.tables.entries.Perm (d :: c :: s.tables.entries) := by
      rw [tables]
      exact Store.Table.perm_insertAll _ _
    have transfers_perm : s'.tables.transfers.Perm (f :: s.tables.transfers) := by
      rw [tables]
      exact Store.Table.perm_insertAll _ _
    have named : ∀ {n : Int}, (∃ x ∈ s.tables.accounts, x.id = n) →
        ∃ x ∈ s'.tables.accounts, x.id = n := by
      rintro n ⟨x, hx, rfl⟩
      rw [tables]
      exact ⟨_, List.mem_map_of_mem (List.mem_map_of_mem hx), by simp⟩
    have sides_named := (o.exists_sides first second).imp named named
    constructor
    · have hd' : d.posting = (f.source, -f.amount.toInt) := by
        rw [Entry.posting, hd, hda, hneg, hsource, hamount]
      have hc' : c.posting = (f.target, f.amount.toInt) := by
        rw [Entry.posting, hc, hca, htarget, hamount]
      refine (entries_perm.map _).trans (.trans ?_ (transfers_perm.flatMap_right _).symm)
      simp only [List.map_cons, List.flatMap_cons, Transfer.postings, List.cons_append,
        List.nil_append, hd', hc']
      exact (h.postings.cons _).cons _
    · intro x' hx'
      rw [tables] at hx'
      obtain ⟨x₁, hx₁, rfl⟩ := List.mem_map.mp hx'
      obtain ⟨x, hx, rfl⟩ := List.mem_map.mp hx₁
      obtain ⟨opening, hopening, hid, hbalance⟩ := h.balance x hx
      refine ⟨opening, hopening, by simpa using hid, ?_⟩
      have hchange := TransferOrder.balance_change ord.accounts_nodup hpos first second hx
      rw [Transaction.id_setBalance, Transaction.id_setBalance, Entry.sumOn_perm entries_perm,
        Entry.sumOn_cons, Entry.sumOn_cons, hd, hda, hc, hca]
      omega
    · intro e he
      rcases List.mem_cons.mp (entries_perm.mem_iff.mp he) with rfl | he
      · rw [hd]
        exact sides_named.1
      rcases List.mem_cons.mp he with rfl | he
      · rw [hc]
        exact sides_named.2
      · exact named (h.entries_named e he)
    · intro g hg
      rcases List.mem_cons.mp (transfers_perm.mem_iff.mp hg) with rfl | hg
      · rw [hsource, htarget]
        exact sides_named
      · exact ⟨named (h.transfers_named g hg).1, named (h.transfers_named g hg).2⟩
    · exact h.openings_nodup
    · rw [issued]
      exact h.openings_issued

omit h in
theorem job {j : Job} {r : Receipt} {fs : List (Job × Receipt)}
    (h : Books (fs.filterMap fun f => f.2.opened?) s) (writes : j.Writes r s s') :
    Books (((j, r) :: fs).filterMap fun f => f.2.opened?) s' := by
  have whole := writes
  cases writes with
  | register hs =>
    obtain ⟨_, _, _, hs'⟩ := Store.createUser_eq_ok_iff.mp hs
    exact h.of_tables (by rw [hs']) (by rw [hs']) (by rw [hs']) (by rw [hs'])
  | openAccount hs => exact h.openAccount ord hs
  | closeAccount => exact h.closeAccount whole
  | transfer => exact h.transfer ord whole

end Books

theorem Run.books (run : Run .empty w) : Books w.openings w.store := by
  apply run.invariant (P := fun w => Books w.openings w.store) Store.settled_empty
  · constructor <;> simp [Store.empty, openings, successes]
  · intro w w' sound h commits
    cases commits with
    | nothing tables issued successes =>
      rw [openings, successes]
      exact h.of_tables (by rw [tables]) (by rw [tables]) (by rw [tables]) issued
    | job writes successes =>
      rw [openings, successes]
      exact .job sound.orderly h writes

theorem sum_of_openings {accounts : List Account} {opening? : Account → Option Account}
    {g : Account → Int}
    (h : ∀ a ∈ accounts, ∃ opening, opening? a = some opening ∧
      a.balance.toInt = opening.balance.toInt + g a) :
    (accounts.map fun a => a.balance.toInt).sum =
      ((accounts.filterMap opening?).map fun a => a.balance.toInt).sum + (accounts.map g).sum := by
  induction accounts with
  | nil => rfl
  | cons a accounts ih =>
    obtain ⟨opening, hopening, hbalance⟩ := h a List.mem_cons_self
    have := ih fun b hb => h b (List.mem_cons_of_mem _ hb)
    rw [List.filterMap_cons_some hopening]
    simp only [List.map_cons, List.sum_cons]
    omega

/-- After every run, the entries are the two sides of the transfers. An account holds what it was
opened with and the sum of its entries, every row of history names accounts that exist, and all
accounts together hold what they were opened with. -/
theorem Run.double_entry (run : Run .empty w) :
    (w.store.tables.entries.map Entry.posting).Perm
      (w.store.tables.transfers.flatMap Transfer.postings) ∧
    (w.openings.map Account.id).Nodup ∧
    (∀ a ∈ w.store.tables.accounts, ∃ opening, w.opening? a.id = some opening ∧
      a.balance.toInt = opening.balance.toInt + Entry.sumOn a.id w.store.tables.entries) ∧
    (∀ e ∈ w.store.tables.entries, ∃ a ∈ w.store.tables.accounts, a.id = e.account) ∧
    (∀ f ∈ w.store.tables.transfers, (∃ a ∈ w.store.tables.accounts, a.id = f.source) ∧
      ∃ a ∈ w.store.tables.accounts, a.id = f.target) ∧
    (w.store.tables.accounts.map fun a => a.balance.toInt).sum =
      ((w.store.tables.accounts.filterMap fun a => w.opening? a.id).map
        fun a => a.balance.toInt).sum := by
  have h := run.books
  have nodup := (run.sound Store.settled_empty).orderly.accounts_nodup
  have balance : ∀ a ∈ w.store.tables.accounts, ∃ opening, w.opening? a.id = some opening ∧
      a.balance.toInt = opening.balance.toInt + Entry.sumOn a.id w.store.tables.entries := by
    intro a ha
    obtain ⟨opening, hopening, hid, hbalance⟩ := h.balance a ha
    refine ⟨opening, ?_, hbalance⟩
    rw [← hid]
    exact find?_key_of_mem Account.id h.openings_nodup hopening
  refine ⟨h.postings, h.openings_nodup, balance, h.entries_named, h.transfers_named, ?_⟩
  have hentries :
      (w.store.tables.accounts.map fun a => Entry.sumOn a.id w.store.tables.entries).sum = 0 := by
    calc (w.store.tables.accounts.map fun a => Entry.sumOn a.id w.store.tables.entries).sum
        = ((w.store.tables.accounts.map Account.id).map
            fun id => Entry.sumOn id w.store.tables.entries).sum := by
          rw [List.map_map]
          rfl
      _ = (w.store.tables.entries.map fun e => e.amount.toInt).sum :=
          Entry.sum_sumOn nodup fun e he => List.mem_map.mpr (h.entries_named e he)
      _ = ((w.store.tables.entries.map Entry.posting).map Prod.snd).sum := by
          rw [List.map_map]
          rfl
      _ = ((w.store.tables.transfers.flatMap Transfer.postings).map Prod.snd).sum :=
        (h.postings.map _).sum_eq
      _ = 0 := Transfer.sum_postings _
  have := sum_of_openings balance
  omega

theorem Run.double_entry_of_interleaved :
    ∃ w : Pool, Run .empty w ∧ w.store.tables.transfers.length = 2 ∧
    (w.store.tables.entries.map Entry.posting).Perm [(1, -10), (2, 10), (2, -20), (1, 20)] ∧
    (w.store.tables.accounts.map fun a => a.balance.toInt).sum = 200 := by
  have run := (@Run.start .empty).arrive (.register ⟨"ada", "", "", ""⟩) |>.turn .epoch 0
  have run := run.arrive (.openAccount ⟨"ada", .usd, 100⟩) |>.turn .epoch 0
  have run := run.arrive (.openAccount ⟨"ada", .eur, 100⟩) |>.turn .epoch 0
  have run := run.arrive (.transfer ⟨1, 2, 10⟩) |>.arrive (.transfer ⟨2, 1, 20⟩)
  have run := run.turn .epoch 0 |>.turn .epoch 0 |>.turn .epoch 0 |>.turn .epoch 0 |>.turn .epoch 0
  have run := run.turn .epoch 1 |>.turn .epoch 1 |>.turn .epoch 1 |>.turn .epoch 1 |>.turn .epoch 1
  have run := run.turn .epoch 0 |>.turn .epoch 0 |>.turn .epoch 0 |>.turn .epoch 0 |>.turn .epoch 0
  obtain ⟨postings, _, _, _, _, total⟩ := run.double_entry
  exact ⟨_, run, rfl, postings, total⟩

end Pool
end Giro
