import Giro.Proofs.RowLocks

/-!
# Rows that name accounts

An entry names one account and a transfer names two. Whether they exist is asked when the row is
staged; a deletion asks only the committed rows, and a commit asks nothing. So a committed row names
an account that is gone exactly when the account was deleted after the row had been staged and
before its transaction committed: `Run.dangling_iff`.
-/

namespace Giro

/-- A row that names an account, known by the event that staged it in a transaction. -/
structure Reference where
  staging : Nat → Event
  account : Int

def Entry.staging (e : Entry) (ticket : Nat) : Event :=
  .answered (.stageEntry ticket e.account e.amount) (.ok e)

def Transfer.staging (f : Transfer) (ticket : Nat) : Event :=
  .answered (.stageTransfer ticket f.source f.target f.amount) (.ok f)

def Transfer.references (f : Transfer) : List Reference :=
  [⟨f.staging, f.source⟩, ⟨f.staging, f.target⟩]

def references (entries : List Entry) (transfers : List Transfer) : List Reference :=
  entries.map (fun e => ⟨e.staging, e.account⟩) ++ transfers.flatMap Transfer.references

theorem mem_references_iff {entries : List Entry} {transfers : List Transfer} {r : Reference} :
    r ∈ references entries transfers ↔
      (∃ e ∈ entries, r = ⟨e.staging, e.account⟩) ∨
        ∃ f ∈ transfers, r = ⟨f.staging, f.source⟩ ∨ r = ⟨f.staging, f.target⟩ := by
  simp only [references, List.mem_append, List.mem_map, List.mem_flatMap, Transfer.references,
    List.mem_cons, List.not_mem_nil, or_false, eq_comm (a := r)]

theorem Tables.isReferenced_iff {t : Tables} {id : Int} :
    t.IsReferenced id ↔ ∃ r ∈ references t.entries t.transfers, r.account = id := by
  simp only [mem_references_iff]
  constructor
  · rintro (⟨e, he, rfl⟩ | ⟨f, hf, rfl | rfl⟩)
    · exact ⟨_, Or.inl ⟨e, he, rfl⟩, rfl⟩
    · exact ⟨_, Or.inr ⟨f, hf, Or.inl rfl⟩, rfl⟩
    · exact ⟨_, Or.inr ⟨f, hf, Or.inr rfl⟩, rfl⟩
  · rintro ⟨r, ⟨e, he, rfl⟩ | ⟨f, hf, rfl | rfl⟩, rfl⟩
    · exact Or.inl ⟨e, he, rfl⟩
    · exact Or.inr ⟨f, hf, Or.inl rfl⟩
    · exact Or.inr ⟨f, hf, Or.inr rfl⟩

/-- A published transaction adds the references of its rows and takes none away. -/
theorem mem_references_publish {s : Store} {tx : Transaction} {r : Reference} :
    r ∈ references (s.publish tx).tables.entries (s.publish tx).tables.transfers ↔
      r ∈ references tx.entries tx.transfers ∨
        r ∈ references s.tables.entries s.tables.transfers := by
  simp only [mem_references_iff, Store.publish, Store.Table.mem_insertAll]
  grind

def Event.deleted (id : Int) : Event := .answered (.deleteAccount id) (.ok ())

def Event.committed (ticket : Nat) : Event := .answered (.commit ticket) (.ok ())

namespace Reference

variable {r : Reference} {h : List Event} {ticket : Nat} {e : Event}

/-- The account was deleted after the row had been staged. -/
def Outlived (r : Reference) (ticket : Nat) (h : List Event) : Prop :=
  [Event.deleted r.account, r.staging ticket].Sublist h

/-- The account was deleted after the row had been staged and before its transaction committed. -/
def Overtaken (r : Reference) (h : List Event) : Prop :=
  ∃ ticket, [Event.committed ticket, Event.deleted r.account, r.staging ticket].Sublist h

theorem Outlived.cons (outlived : r.Outlived ticket h) : r.Outlived ticket (e :: h) :=
  List.Sublist.cons e outlived

theorem Overtaken.cons (overtaken : r.Overtaken h) : r.Overtaken (e :: h) := by
  obtain ⟨ticket, hsub⟩ := overtaken
  exact ⟨ticket, hsub.cons e⟩

theorem outlived_of_deleted (staged : r.staging ticket ∈ h) :
    r.Outlived ticket (Event.deleted r.account :: h) :=
  (List.singleton_sublist.mpr staged).cons_cons _

theorem Outlived.committed (outlived : r.Outlived ticket h) :
    r.Overtaken (Event.committed ticket :: h) :=
  ⟨ticket, List.Sublist.cons_cons _ outlived⟩

theorem Overtaken.deleted_mem (overtaken : r.Overtaken h) : Event.deleted r.account ∈ h := by
  obtain ⟨ticket, hsub⟩ := overtaken
  exact hsub.subset (by simp)

end Reference

namespace Traffic

/-- What the history says of every row that names an account, whether it is staged or committed. -/
structure Tracked (h : List Event) (s : Store) : Prop where
  deleted : ∀ id, Event.deleted id ∈ h →
    id ≤ s.issued.account ∧ ∀ a ∈ s.tables.accounts, a.id ≠ id
  staged : ∀ tx ∈ s.transactions, ∀ r ∈ references tx.entries tx.transfers,
    r.staging tx.ticket ∈ h ∧
      ((∃ a ∈ s.tables.accounts, a.id = r.account) ∨ r.Outlived tx.ticket h)
  committed : ∀ r ∈ references s.tables.entries s.tables.transfers,
    (∃ a ∈ s.tables.accounts, a.id = r.account) ∨ r.Overtaken h

theorem tracked_empty : Tracked [] .empty := by
  constructor <;> simp [Store.empty, references]

namespace Tracked

variable {h : List Event} {s s' : Store} {ws : List Waiting} {e : Event} (i : Tracked h s)
    (o : Orderly s ws)
include i

theorem cons (he : ∀ id, e ≠ Event.deleted id) : Tracked (e :: h) s where
  deleted id hid := i.deleted id ((List.mem_cons.mp hid).resolve_left fun heq => he id heq.symm)
  staged tx htx r hr := by
    obtain ⟨hmem, hr⟩ := i.staged tx htx r hr
    exact ⟨List.mem_cons_of_mem e hmem, hr.imp_right Reference.Outlived.cons⟩
  committed r hr := (i.committed r hr).imp_right Reference.Overtaken.cons

/-- Other rows than those that name accounts do not matter, nor do numbers that are given out. -/
theorem of_rows (haccounts : ∀ id, (∃ a ∈ s.tables.accounts, a.id = id) →
      ∃ a ∈ s'.tables.accounts, a.id = id)
    (hold : ∀ a ∈ s'.tables.accounts, (∃ b ∈ s.tables.accounts, b.id = a.id) ∨
      s.issued.account < a.id)
    (hissued : s.issued.account ≤ s'.issued.account)
    (hentries : s'.tables.entries = s.tables.entries)
    (htransfers : s'.tables.transfers = s.tables.transfers)
    (htransactions : ∀ tx' ∈ s'.transactions, references tx'.entries tx'.transfers = [] ∨
      ∃ tx ∈ s.transactions, tx.ticket = tx'.ticket ∧ tx.entries = tx'.entries ∧
        tx.transfers = tx'.transfers) : Tracked h s' where
  deleted id hid := by
    obtain ⟨hle, hgone⟩ := i.deleted id hid
    refine ⟨by omega, fun a ha heq => ?_⟩
    rcases hold a ha with ⟨b, hb, hba⟩ | hnew
    · exact hgone b hb (hba.trans heq)
    · omega
  staged tx' htx' r hr := by
    rcases htransactions tx' htx' with hnil | ⟨tx, htx, ht, hte, htf⟩
    · rw [hnil] at hr
      cases hr
    · rw [← hte, ← htf] at hr
      rw [← ht]
      exact (i.staged tx htx r hr).imp_right (Or.imp_left (haccounts _))
  committed r hr := by
    rw [hentries, htransfers] at hr
    exact (i.committed r hr).imp_left (haccounts _)

/-- The same accounts, and transactions that stage no other rows than they did. -/
theorem of_accounts (haccounts : s'.tables.accounts = s.tables.accounts)
    (hissued : s'.issued.account = s.issued.account)
    (hentries : s'.tables.entries = s.tables.entries)
    (htransfers : s'.tables.transfers = s.tables.transfers)
    (htransactions : ∀ tx' ∈ s'.transactions, references tx'.entries tx'.transfers = [] ∨
      ∃ tx ∈ s.transactions, tx.ticket = tx'.ticket ∧ tx.entries = tx'.entries ∧
        tx.transfers = tx'.transfers) : Tracked h s' :=
  i.of_rows (fun id => by rw [haccounts]; exact fun h => h)
    (fun a ha => Or.inl ⟨a, by rwa [haccounts] at ha, rfl⟩) (by omega) hentries htransfers
    htransactions

theorem discard (t : Nat) : Tracked h (s.discard t) :=
  i.of_accounts rfl rfl rfl rfl fun tx htx =>
    Or.inr ⟨tx, List.mem_of_mem_filter htx, rfl, rfl, rfl⟩

theorem update_rows {t : Nat} {f : Transaction → Transaction}
    (ticket_f : ∀ tx, (f tx).ticket = tx.ticket) (entries_f : ∀ tx, (f tx).entries = tx.entries)
    (transfers_f : ∀ tx, (f tx).transfers = tx.transfers) : Tracked h (s.update t f) := by
  refine i.of_accounts rfl rfl rfl rfl ?_
  intro tx htx
  rcases Store.mem_update.mp htx with ⟨old, hold, _, rfl⟩ | ⟨htx, _⟩
  · exact Or.inr ⟨old, hold, (ticket_f old).symm, (entries_f old).symm, (transfers_f old).symm⟩
  · exact Or.inr ⟨tx, htx, rfl, rfl, rfl⟩

/-- A transaction stages a row whose accounts exist. -/
theorem stage {t : Nat} {f : Transaction → Transaction} (counted : Store)
    (htables : counted.tables = s.tables) (hissued : counted.issued.account = s.issued.account)
    (htransactions : counted.transactions = s.transactions) (he : ∀ id, e ≠ Event.deleted id)
    (ticket_f : ∀ tx, (f tx).ticket = tx.ticket)
    (references_f : ∀ tx, ∀ r ∈ references (f tx).entries (f tx).transfers,
      r ∈ references tx.entries tx.transfers ∨
        r.staging t = e ∧ ∃ a ∈ s.tables.accounts, a.id = r.account) :
    Tracked (e :: h) (counted.update t f) := by
  have i' := i.cons he
  constructor
  · rw [Store.update_issued, Store.update_tables, hissued, htables]
    exact i'.deleted
  · rw [Store.update_tables, htables]
    intro tx htx r hr
    rcases Store.mem_update.mp htx with ⟨old, hold, ht, rfl⟩ | ⟨htx, _⟩
    · rw [htransactions] at hold
      rw [ticket_f]
      rcases references_f old r hr with hr | ⟨hstaging, hnamed⟩
      · exact i'.staged old hold r hr
      · rw [ht, hstaging]
        exact ⟨List.mem_cons_self, Or.inl hnamed⟩
    · rw [htransactions] at htx
      exact i'.staged tx htx r hr
  · rw [Store.update_tables, htables]
    exact i'.committed

theorem commit {t : Nat} {tx : Transaction} (htx : tx ∈ s.transactions) (ht : tx.ticket = t) :
    Tracked (Event.committed t :: h) ((s.publish tx).discard t) := by
  have i' := i.cons (e := Event.committed t) fun id => by simp [Event.committed, Event.deleted]
  have named : ∀ id, (∃ a ∈ s.tables.accounts, a.id = id) →
      ∃ a ∈ (s.publish tx).tables.accounts, a.id = id := by
    rintro id ⟨a, ha, rfl⟩
    exact ⟨tx.publish a, List.mem_map_of_mem ha, Transaction.id_publish tx a⟩
  apply discard
  constructor
  · intro id hid
    obtain ⟨hle, hgone⟩ := i'.deleted id hid
    refine ⟨hle, fun a ha => ?_⟩
    obtain ⟨b, hb, rfl⟩ := List.mem_map.mp ha
    rw [Transaction.id_publish]
    exact hgone b hb
  · intro tx' htx' r hr
    exact (i'.staged tx' htx' r hr).imp_right (Or.imp_left (named _))
  · intro r hr
    rcases mem_references_publish.mp hr with hr | hr
    · obtain ⟨_, hr⟩ := i.staged tx htx r hr
      rw [ht] at hr
      exact hr.imp (named _) Reference.Outlived.committed
    · exact (i'.committed r hr).imp_left (named _)

theorem createAccount {new : NewAccount} {now : Timestamp} {a : Account}
    (hs : s.createAccount new now = .ok (a, s')) : Tracked h s' := by
  obtain ⟨_, _, ha, rfl⟩ := Store.createAccount_eq_ok_iff.mp hs
  apply i.of_rows
  · rintro id ⟨b, hb, rfl⟩
    exact ⟨b, List.mem_append_left _ hb, rfl⟩
  · intro b hb
    rcases List.mem_append.mp hb with hb | hb
    · exact Or.inl ⟨b, hb, rfl⟩
    · right
      rw [List.mem_singleton.mp hb, ha]
      simp only
      omega
  · simp
  · rfl
  · rfl
  · exact fun tx htx => Or.inr ⟨tx, htx, rfl, rfl, rfl⟩

include o

theorem deleteAccount {id : Int} {lockable : List Int} (hsome : (s.tables.account? id).isSome)
    (unnamed : ¬ s.tables.IsReferenced id) :
    Tracked (Event.deleted id :: h) { s with
      tables.accounts := s.tables.accounts.filter fun a => a.id ≠ id
      lockable } := by
  obtain ⟨x, hx⟩ := Option.isSome_iff_exists.mp hsome
  obtain ⟨hmem, hxid⟩ := Tables.mem_of_account? hx
  have named : ∀ n, n ≠ id → (∃ a ∈ s.tables.accounts, a.id = n) →
      ∃ a ∈ s.tables.accounts.filter (fun a => a.id ≠ id), a.id = n := by
    rintro n hne ⟨a, ha, rfl⟩
    exact ⟨a, List.mem_filter.mpr ⟨ha, by simpa using hne⟩, rfl⟩
  constructor
  · intro n hn
    rcases List.mem_cons.mp hn with heq | hn
    · have : n = id := by
        cases heq
        rfl
      subst this
      refine ⟨hxid ▸ (o.accounts_issued x hmem).2, fun a ha => ?_⟩
      simpa using (List.mem_filter.mp ha).2
    · obtain ⟨hle, hgone⟩ := i.deleted n hn
      exact ⟨hle, fun a ha => hgone a (List.mem_of_mem_filter ha)⟩
  · intro tx htx r hr
    obtain ⟨hmem, hr⟩ := i.staged tx htx r hr
    refine ⟨List.mem_cons_of_mem _ hmem, ?_⟩
    by_cases hid : r.account = id
    · subst hid
      exact Or.inr (Reference.outlived_of_deleted hmem)
    · exact hr.imp (named _ hid) Reference.Outlived.cons
  · intro r hr
    have hne : r.account ≠ id := fun hid => unnamed (Tables.isReferenced_iff.mpr ⟨r, hr, hid⟩)
    exact (i.committed r hr).imp (named _ hne) Reference.Overtaken.cons

end Tracked

theorem Effect.tracked {T T' : Traffic} {h events : List Event} (effect : Effect T events T')
    (o : Orderly T.store T.waiting) (i : Tracked h T.store) : Tracked (events ++ h) T'.store := by
  have same : ∀ {s : Store}, ∀ tx ∈ s.transactions, references tx.entries tx.transfers = [] ∨
      ∃ tx' ∈ s.transactions, tx'.ticket = tx.ticket ∧ tx'.entries = tx.entries ∧
        tx'.transfers = tx.transfers := fun tx htx => Or.inr ⟨tx, htx, rfl, rfl, rfl⟩
  have plain : ∀ {c : Call} {answer : Except StoreError c.Reply}, (∀ id, c ≠ .deleteAccount id) →
      ∀ id, Event.answered c answer ≠ Event.deleted id := by
    intro c answer hc id heq
    cases heq
    exact hc id rfl
  cases effect with
  | @quiet T e he =>
    apply i.cons
    rintro id rfl
    rcases he with hc | ⟨_, hc⟩ <;> cases hc
  | createUser hs =>
    obtain ⟨_, _, _, rfl⟩ := Store.createUser_eq_ok_iff.mp hs
    exact (i.cons (plain (by simp))).of_accounts rfl rfl rfl rfl same
  | createSession hs =>
    rw [Store.createSession_eq_ok hs]
    exact (i.cons (plain (by simp))).of_accounts rfl rfl rfl rfl same
  | createAccount hs => exact (i.cons (plain (by simp))).createAccount hs
  | begin =>
    refine (i.cons (plain (by simp))).of_accounts rfl rfl rfl rfl ?_
    intro tx htx
    rcases List.mem_append.mp htx with htx | htx
    · exact same tx htx
    · rw [List.mem_singleton.mp htx]
      exact Or.inl rfl
  | @stageTransfer s s' ws t source target amount now f hs =>
    obtain ⟨_, _, hsource, htarget, rfl, rfl⟩ := Store.stageTransfer_eq_ok_iff.mp hs
    obtain ⟨x, hx⟩ := Option.isSome_iff_exists.mp hsource
    obtain ⟨y, hy⟩ := Option.isSome_iff_exists.mp htarget
    refine i.stage { s with issued.transfer := s.issued.transfer + 1 } rfl rfl rfl
      (plain (by simp)) (fun _ => rfl) ?_
    intro tx r hr
    rcases mem_references_iff.mp hr with ⟨e, he, rfl⟩ | ⟨g, hg, hr⟩
    · exact Or.inl (mem_references_iff.mpr (Or.inl ⟨e, he, rfl⟩))
    · rcases List.mem_append.mp hg with hg | hg
      · exact Or.inl (mem_references_iff.mpr (Or.inr ⟨g, hg, hr⟩))
      · rw [List.mem_singleton.mp hg] at hr
        right
        rcases hr with rfl | rfl
        · exact ⟨rfl, x, Tables.mem_of_account? hx⟩
        · exact ⟨rfl, y, Tables.mem_of_account? hy⟩
  | @stageEntry s s' ws t account amount now e hs =>
    obtain ⟨_, haccount, rfl, rfl⟩ := Store.stageEntry_eq_ok_iff.mp hs
    obtain ⟨x, hx⟩ := Option.isSome_iff_exists.mp haccount
    refine i.stage { s with issued.entry := s.issued.entry + 1 } rfl rfl rfl
      (plain (by simp)) (fun _ => rfl) ?_
    intro tx r hr
    rcases mem_references_iff.mp hr with ⟨e, he, rfl⟩ | ⟨g, hg, hr⟩
    · rcases List.mem_append.mp he with he | he
      · exact Or.inl (mem_references_iff.mpr (Or.inl ⟨e, he, rfl⟩))
      · rw [List.mem_singleton.mp he]
        exact Or.inr ⟨rfl, x, Tables.mem_of_account? hx⟩
    · exact Or.inl (mem_references_iff.mpr (Or.inr ⟨g, hg, hr⟩))
  | addStaged free htx hrow hs =>
    obtain ⟨_, _, _, rfl⟩ := Store.addStaged_eq_ok_iff.mp hs
    exact (i.cons (plain (by simp))).update_rows (fun _ => rfl) (fun _ => rfl) fun _ => rfl
  | queueAdd => exact i.of_accounts rfl rfl rfl rfl same
  | queueDelete => exact i.of_accounts rfl rfl rfl rfl same
  | @grantAdd s s' before after r amount answer holds hs =>
    have i' : Tracked (.answered (.addBalance r.ticket r.account amount) answer :: h) s :=
      i.cons (plain (by simp))
    rcases Store.addGranted_cases hs with ⟨_, rfl, _⟩ | ⟨row, _, ⟨a, ha, _⟩ | ⟨rfl, _⟩⟩
    · exact i'.of_accounts rfl rfl rfl rfl same
    · obtain ⟨_, _, _, rfl⟩ := Store.addStaged_eq_ok_iff.mp ha
      have copied := i'.update_rows (t := r.ticket)
        (f := fun tx => { tx with rows := tx.rows ++ [row] }) (fun _ => rfl) (fun _ => rfl)
        fun _ => rfl
      exact copied.update_rows (fun _ => rfl) (fun _ => rfl) fun _ => rfl
    · exact i'.update_rows (fun _ => rfl) (fun _ => rfl) fun _ => rfl
  | @grantDelete s s' before after r answer holds hs =>
    rcases Store.deleteGranted_cases hs with ⟨rfl, e, rfl⟩ | ⟨hsome, unnamed, rfl, rfl⟩
    · refine (i.cons ?_).of_accounts rfl rfl rfl rfl same
      intro id heq
      cases heq
    · have given : Tracked h (s.withdraw r) := i.of_accounts rfl rfl rfl rfl same
      exact given.deleteAccount o.withdraw hsome unnamed
  | cancel => exact i.of_accounts rfl rfl rfl rfl same
  | @discard s ws t e isOpen free he =>
    refine (i.cons ?_).discard t
    intro id heq
    rcases he with rfl | rfl <;> cases heq
  | commit free htx =>
    obtain ⟨htx, ht⟩ := Store.mem_of_transaction? htx
    exact i.commit htx ht

theorem Run.tracked {h : List Event} {T : Traffic} (run : Run h T) : Tracked h T.store :=
  (run.invariant (P := fun h T => Orderly T.store T.waiting ∧ Tracked h T.store)
    ⟨orderly_empty, tracked_empty⟩
    fun ⟨o, i⟩ effect => ⟨effect.orderly o, effect.tracked o i⟩).2

theorem Tracked.account?_eq_none_iff {h : List Event} {s : Store} {r : Reference} (i : Tracked h s)
    (hr : r ∈ references s.tables.entries s.tables.transfers) :
    s.tables.account? r.account = none ↔ r.Overtaken h := by
  constructor
  · intro hnone
    rcases i.committed r hr with ⟨a, ha, hid⟩ | overtaken
    · exact absurd hid (Store.Table.find?_eq_none_iff.mp hnone a ha)
    · exact overtaken
  · intro overtaken
    apply Store.Table.find?_eq_none_iff.mpr
    exact (i.deleted _ overtaken.deleted_mem).2

/-- After every run, a committed row names an account that is gone exactly when the account was
deleted after the row had been staged and before its transaction committed. -/
theorem Run.dangling_iff {h : List Event} {T : Traffic} (run : Run h T) :
    (∀ e ∈ T.store.tables.entries,
      (T.store.tables.account? e.account = none ↔ Reference.Overtaken ⟨e.staging, e.account⟩ h)) ∧
    ∀ f ∈ T.store.tables.transfers,
      (T.store.tables.account? f.source = none ↔ Reference.Overtaken ⟨f.staging, f.source⟩ h) ∧
      (T.store.tables.account? f.target = none ↔ Reference.Overtaken ⟨f.staging, f.target⟩ h) := by
  have i := run.tracked
  constructor
  · intro e he
    exact i.account?_eq_none_iff (mem_references_iff.mpr (Or.inl ⟨e, he, rfl⟩))
  · intro f hf
    constructor
    · exact i.account?_eq_none_iff (mem_references_iff.mpr (Or.inr ⟨f, hf, Or.inl rfl⟩))
    · exact i.account?_eq_none_iff (mem_references_iff.mpr (Or.inr ⟨f, hf, Or.inr rfl⟩))

theorem Run.dangling_iff_of_one_deleted :
    ∃ (h : List Event) (T : Traffic), Run h T ∧ ∃ d ∈ T.store.tables.entries,
      ∃ c ∈ T.store.tables.entries, Reference.Overtaken ⟨d.staging, d.account⟩ h ∧
        ¬ Reference.Overtaken ⟨c.staging, c.account⟩ h := by
  have run := Run.start.call .epoch (.createUser ⟨"ada", "", "", ""⟩) (by decide) rfl
  have run := run.call .epoch (.createAccount ⟨"ada", .usd, 0⟩) (by decide) rfl
  have run := run.call .epoch (.createAccount ⟨"ada", .eur, 0⟩) (by decide) rfl
  have run := run.call .epoch .begin (by decide) rfl
  have run := run.call .epoch (.stageEntry 1 1 5) (by decide) rfl
  have run := run.call .epoch (.stageEntry 1 2 5) (by decide) rfl
  have run := run.call .epoch (.deleteAccount 1) (by decide) rfl
  have run := run.call .epoch (.commit 1) (by decide) rfl
  refine ⟨_, _, run, ⟨1, 1, 5, .epoch⟩, List.mem_cons_self, ⟨2, 2, 5, .epoch⟩,
    List.mem_cons_of_mem _ List.mem_cons_self, ?_, ?_⟩
  · exact (run.dangling_iff.1 _ List.mem_cons_self).mp rfl
  · intro overtaken
    have hnone := (run.dangling_iff.1 _ (List.mem_cons_of_mem _ List.mem_cons_self)).mpr overtaken
    cases hnone

/-- A deletion does not see the rows that open transactions have staged. -/
theorem Run.exists_dangling : ¬ ∀ (h : List Event) (T : Traffic), Run h T →
    ∀ e ∈ T.store.tables.entries, ∃ a ∈ T.store.tables.accounts, a.id = e.account := by
  intro named
  have run := Run.start.call .epoch (.createUser ⟨"ada", "", "", ""⟩) (by decide) rfl
  have run := run.call .epoch (.createAccount ⟨"ada", .usd, 0⟩) (by decide) rfl
  have run := run.call .epoch .begin (by decide) rfl
  have run := run.call .epoch (.stageEntry 1 1 5) (by decide) rfl
  have run := run.call .epoch (.deleteAccount 1) (by decide) rfl
  have run := run.call .epoch (.commit 1) (by decide) rfl
  obtain ⟨a, ha, _⟩ := named _ _ run ⟨1, 1, 5, .epoch⟩ (List.mem_singleton_self _)
  cases ha

end Traffic
end Giro
