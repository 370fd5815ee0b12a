import Giro.Proofs.Serial

/-!
# Transactions by script

A script is a transaction whose calls are fixed beforehand, whatever they are answered. What its
calls answer and what it stages is told by `Move.stage` from the committed accounts alone, without
times, numbers or locks: `Move.exists_answer` says that the store does the same to an open
transaction as long as nobody else asks for the rows that it changes.
-/

namespace Giro

open Traffic

/-- A call of a transaction that is under way. -/
inductive Move where
  | transfer (source target : Int) (amount : Amount)
  | entry (account : Int) (amount : Amount)
  | add (account : Int) (amount : Amount)

/-- What a call of a transaction answers, without the times and numbers of rows. -/
inductive Shown where
  | transfer (f : Transfer)
  | entry (e : Entry)
  | account (a : Account)
  | ended

namespace Move

def call (t : Nat) : Move → Call
  | .transfer source target amount => .stageTransfer t source target amount
  | .entry account amount => .stageEntry t account amount
  | .add account amount => .addBalance t account amount

def shown (t : Nat) : (m : Move) → (m.call t).Reply → Shown
  | .transfer _ _ _, f => .transfer f.plain
  | .entry _ _, e => .entry e.plain
  | .add _ _, a => .account a

@[simp] theorem ticket?_call (m : Move) (t : Nat) : (m.call t).ticket? = some t := by
  cases m <;> rfl

theorem call_ne_commit (m : Move) (t : Nat) : m.call t ≠ .commit t := by
  cases m <;> exact Call.noConfusion

theorem track_call (m : Move) (t : Nat) (answer : Except StoreError (m.call t).Reply)
    (opened : List Nat) : (m.call t).track answer opened = opened := by
  cases m <;> rfl

/-- The accounts whose balance is changed. -/
def rows : Move → List Int
  | .add account _ => [account]
  | _ => []

/-- Adds to a row that the transaction sees. The row is copied even if the sum is out of range. -/
def addTo (tx : Transaction) (row : Account) (amount : Amount) :
    Except StoreError Account × Transaction :=
  match row.plus amount with
  | .ok a => (.ok a, tx.withRow a)
  | .error e => (.error e, tx.withRow row)

/-- What a move answers and leaves staged, by the committed accounts and what has been staged. -/
def stage (committed : Int → Option Account) (tx : Transaction) :
    Move → Except StoreError Shown × Transaction
  | .transfer source target amount =>
    if amount ≤ 0 then (.error (.constraint .amountNotPositive), tx)
    else if (committed source).isNone then
      (.error (.constraint (.transferAccountMissing source)), tx)
    else if (committed target).isNone then
      (.error (.constraint (.transferAccountMissing target)), tx)
    else
      let f : Transfer := ⟨0, source, target, amount, .epoch⟩
      (.ok (.transfer f), { tx with transfers := tx.transfers ++ [f] })
  | .entry account amount =>
    if (committed account).isNone then (.error (.constraint (.entryAccountMissing account)), tx)
    else
      let e : Entry := ⟨0, account, amount, .epoch⟩
      (.ok (.entry e), { tx with entries := tx.entries ++ [e] })
  | .add account amount =>
    match (tx.row? account).or (committed account) with
    | none => (.error (.notFound (.account account)), tx)
    | some row => ((addTo tx row amount).1.map Shown.account, (addTo tx row amount).2)

/-- Balances matter of the accounts only that are changed. -/
theorem stage_congr {committed committed' : Int → Option Account} {m : Move} (tx : Transaction)
    (exist : ∀ id, (committed id).isNone = (committed' id).isNone)
    (agree : ∀ id ∈ m.rows, committed id = committed' id) :
    m.stage committed tx = m.stage committed' tx := by
  cases m with
  | transfer source target amount => simp only [stage, exist]
  | entry account amount => simp only [stage, exist]
  | add account amount => simp only [stage, agree account List.mem_cons_self]

end Move

/-! ## What has been staged -/

namespace Transaction

variable {tx sketch : Transaction} {a : Account} {id : Int}

/-- A transaction has staged what a sketch says, times and numbers apart. -/
structure Mirrors (tx sketch : Transaction) : Prop where
  rows : ∀ id, tx.row? id = sketch.row? id
  entries : tx.entries.map Entry.plain = sketch.entries
  transfers : tx.transfers.map Transfer.plain = sketch.transfers

theorem mirrors_empty (t : Nat) : Mirrors { ticket := t } { ticket := 0 } :=
  ⟨fun _ => rfl, rfl, rfl⟩

/-- A transaction that has staged nothing changes no balance. -/
@[simp] theorem map_publish_empty (t : Nat) (rows : List Account) :
    rows.map (publish { ticket := t }) = rows := List.map_id rows

theorem Mirrors.withRow (h : Mirrors tx sketch) (a : Account) :
    Mirrors (tx.withRow a) (sketch.withRow a) where
  rows id := by rw [row?_withRow, row?_withRow, h.rows]
  entries := h.entries
  transfers := h.transfers

/-- Nothing is new in a row that is there already. -/
theorem Mirrors.withRow_of_row? {row : Account} (h : Mirrors tx sketch)
    (hrow : tx.row? id = some row) : Mirrors tx (sketch.withRow row) where
  rows n := by
    obtain ⟨_, rfl⟩ := mem_of_row? hrow
    rw [row?_withRow, ← h.rows]
    split
    · rename_i heq
      rw [heq, hrow]
      rfl
    · rfl
  entries := h.entries
  transfers := h.transfers

theorem Mirrors.publish_eq (h : Mirrors tx sketch) (x : Account) :
    tx.publish x = sketch.publish x := by
  rw [publish, publish, h.rows]

end Transaction

/-- An open transaction has staged what a sketch says. -/
def Store.Shows (s : Store) (t : Nat) (sketch : Transaction) : Prop :=
  ∃ tx ∈ s.transactions, tx.ticket = t ∧ tx.Mirrors sketch

theorem Store.Shows.isOpen {s : Store} {t : Nat} {sketch : Transaction} (h : s.Shows t sketch) :
    (s.transaction? t).isSome := by
  obtain ⟨tx, htx, ht, _⟩ := h
  exact Store.isSome_transaction?_iff.mpr ⟨tx, htx, ht⟩

theorem Store.Shows.not_isNone {s : Store} {t : Nat} {sketch : Transaction}
    (h : s.Shows t sketch) : ¬ (s.transaction? t).isNone := by
  rw [Option.isNone_iff_eq_none]
  exact Option.isSome_iff_ne_none.mp h.isOpen

/-! ## One move -/

theorem Traffic.Orderly.account?_eq_none_of_not_mem {s : Store} {ws : List Waiting} {id : Int}
    (o : Orderly s ws) (hl : id ∉ s.lockable) : s.tables.account? id = none := by
  cases h : s.tables.account? id with
  | none => rfl
  | some x =>
    obtain ⟨hx, hid⟩ := Tables.mem_of_account? h
    exact absurd ((o.mem_lockable_iff id).mpr ⟨x, hx, hid⟩) hl

namespace Move

variable {s : Store} {ws : List Waiting} {t : Nat} {sketch : Transaction}

theorem exists_answer_transfer (shows : s.Shows t sketch) (source target : Int) (amount : Amount)
    (now : Timestamp) : ∃ s' answer,
      s.perform now (.stageTransfer t source target amount) = (s', .answered answer) ∧
      answer.map (shown t (.transfer source target amount)) =
        (stage s.tables.account? sketch (.transfer source target amount)).1 ∧
      s'.Shows t (stage s.tables.account? sketch (.transfer source target amount)).2 := by
  have isOpen := shows.not_isNone
  obtain ⟨tx, htx, ht, mirrors⟩ := id shows
  simp only [Store.perform, Store.stageTransfer, stage, if_neg isOpen]
  split_ifs with hamount hsource htarget
  · exact ⟨s, _, rfl, rfl, shows⟩
  · exact ⟨s, _, rfl, rfl, shows⟩
  · exact ⟨s, _, rfl, rfl, shows⟩
  · refine ⟨_, _, rfl, rfl, ?_⟩
    refine ⟨_, Store.mem_update.mpr (Or.inl ⟨tx, htx, ht, rfl⟩), ht, ?_⟩
    exact ⟨mirrors.rows, mirrors.entries, by simp [mirrors.transfers, Transfer.plain]⟩

theorem exists_answer_entry (shows : s.Shows t sketch) (account : Int) (amount : Amount)
    (now : Timestamp) : ∃ s' answer,
      s.perform now (.stageEntry t account amount) = (s', .answered answer) ∧
      answer.map (shown t (.entry account amount)) =
        (stage s.tables.account? sketch (.entry account amount)).1 ∧
      s'.Shows t (stage s.tables.account? sketch (.entry account amount)).2 := by
  have isOpen := shows.not_isNone
  obtain ⟨tx, htx, ht, mirrors⟩ := id shows
  simp only [Store.perform, Store.stageEntry, stage, if_neg isOpen]
  split_ifs with haccount
  · exact ⟨s, _, rfl, rfl, shows⟩
  · refine ⟨_, _, rfl, rfl, ?_⟩
    refine ⟨_, Store.mem_update.mpr (Or.inl ⟨tx, htx, ht, rfl⟩), ht, ?_⟩
    exact ⟨mirrors.rows, by simp [mirrors.entries, Entry.plain], mirrors.transfers⟩

/-- A row that is locked already is added to where it is. -/
theorem exists_addStaged {tx : Transaction} (o : Orderly s ws) (htx : tx ∈ s.transactions)
    (mirrors : tx.Mirrors sketch) {account : Int} {row : Account}
    (hrow : tx.row? account = some row) (amount : Amount) : ∃ s',
      s.addBalance tx.ticket account amount = (s', .answered (addTo sketch row amount).1) ∧
      s'.Shows tx.ticket (addTo sketch row amount).2 := by
  have hfind := o.transaction?_eq_some htx
  cases hsum : Amount.add? row.balance amount with
  | none =>
    refine ⟨s, ?_, ?_⟩
    · simp only [Store.addBalance, hfind, hrow, Store.addStaged, addTo, Account.plus, hsum]
    · simp only [addTo, Account.plus, hsum]
      exact ⟨tx, htx, rfl, mirrors.withRow_of_row? hrow⟩
  | some balance =>
    have sum := Amount.add?_eq_some_iff.mp hsum
    have staged := o.addStaged_changed htx hrow
      (Store.addStaged_eq_ok_iff.mpr ⟨balance, sum, rfl, rfl⟩)
    refine ⟨_, ?_, tx.withRow { row with balance }, staged.2, rfl, ?_⟩
    · simp only [Store.addBalance, hfind, hrow, Store.addStaged, addTo, Account.plus, hsum]
    · simp only [addTo, Account.plus, hsum]
      exact mirrors.withRow _

/-- A row that has come is copied as it is committed, and the copy is added to. -/
theorem exists_addGranted {tx : Transaction} (htx : tx ∈ s.transactions)
    (mirrors : tx.Mirrors sketch) {x : Account} (hrow : tx.row? x.id = none)
    (haccount : s.tables.account? x.id = some x) (amount : Amount) : ∃ s',
      s.addGranted ⟨tx.ticket, x.id⟩ amount = (s', (addTo sketch x amount).1) ∧
      s'.Shows tx.ticket (addTo sketch x amount).2 := by
  cases hsum : Amount.add? x.balance amount with
  | none =>
    refine ⟨s.copyRow tx.ticket x, ?_, tx.withRow x, ?_, rfl, ?_⟩
    · simp only [Store.addGranted, haccount, Store.addStaged, addTo, Account.plus, hsum]
      rfl
    · rw [Transaction.withRow_of_row?_eq_none hrow]
      exact Store.mem_update.mpr (Or.inl ⟨tx, htx, rfl, rfl⟩)
    · simp only [addTo, Account.plus, hsum]
      exact mirrors.withRow x
  | some balance =>
    rcases hgranted : s.addGranted ⟨tx.ticket, x.id⟩ amount with ⟨s', answer⟩
    have hanswer : (s.addGranted ⟨tx.ticket, x.id⟩ amount).2 = .ok { x with balance } := by
      simp only [Store.addGranted, haccount, Store.addStaged, hsum]
    rw [hgranted] at hanswer
    subst hanswer
    have staged := (Store.addGranted_changed htx rfl hrow hgranted).2
    refine ⟨s', ?_, tx.withRow { x with balance }, staged, rfl, ?_⟩
    · simp only [addTo, Account.plus, hsum]
    · simp only [addTo, Account.plus, hsum]
      exact mirrors.withRow _

theorem exists_answer_add (o : Orderly s ws) (shows : s.Shows t sketch) (free : Free t ws)
    (account : Int)
    (own : ∀ r ∈ s.requests, r.account = account → account ∈ s.lockable → r.ticket = t)
    (amount : Amount) (now : Timestamp) : ∃ s' answer,
      s.perform now (.addBalance t account amount) = (s', .answered answer) ∧
      answer.map (shown t (.add account amount)) =
        (stage s.tables.account? sketch (.add account amount)).1 ∧
      s'.Shows t (stage s.tables.account? sketch (.add account amount)).2 := by
  obtain ⟨tx, htx, rfl, mirrors⟩ := id shows
  have hfind := o.transaction?_eq_some htx
  simp only [stage, ← mirrors.rows, Store.perform]
  cases hrow : tx.row? account with
  | some row =>
    obtain ⟨s', hadd, shows'⟩ := exists_addStaged o htx mirrors hrow amount
    rw [hadd]
    exact ⟨s', _, rfl, rfl, shows'⟩
  | none =>
    by_cases hl : account ∈ s.lockable
    · obtain ⟨x, hx, rfl⟩ := (o.mem_lockable_iff account).mp hl
      have haccount := o.account?_eq_some hx
      have holds := o.holds_enqueue_own htx free (fun r hr hrow => own r hr hrow hl) hrow
      obtain ⟨s', hgranted, shows'⟩ :=
        exists_addGranted (s := s.enqueue ⟨tx.ticket, x.id⟩) htx mirrors hrow haccount amount
      rw [Store.addBalance_of_row?_eq_none amount hfind hrow hl, if_pos holds, hgranted, haccount]
      exact ⟨s', _, rfl, rfl, shows'⟩
    -- What cannot be locked is not there, whoever may still stand in a queue for it.
    · have missing := o.account?_eq_none_of_not_mem hl
      simp only [Store.addBalance, hfind, hrow, missing, Option.none_or,
        Store.request?_of_not_mem (r := ⟨tx.ticket, account⟩) hl]
      exact ⟨s, _, rfl, rfl, shows⟩

/-- A move that nobody is in the way of is answered at once, as its script says. -/
theorem exists_answer (o : Orderly s ws) (shows : s.Shows t sketch) (free : Free t ws) (m : Move)
    (own : ∀ r ∈ s.requests, r.account ∈ m.rows → r.account ∈ s.lockable → r.ticket = t)
    (now : Timestamp) : ∃ s' answer, s.perform now (m.call t) = (s', .answered answer) ∧
      answer.map (m.shown t) = (m.stage s.tables.account? sketch).1 ∧
      s'.Shows t (m.stage s.tables.account? sketch).2 := by
  cases m with
  | transfer source target amount => exact exists_answer_transfer shows source target amount now
  | entry account amount => exact exists_answer_entry shows account amount now
  | add account amount =>
    refine exists_answer_add o shows free account ?_ amount now
    rintro r hr rfl hl
    exact own r hr List.mem_cons_self hl

/-- A move locks no other rows than those that it changes. -/
theorem mem_rows_of_stage {committed : Int → Option Account} {m : Move} {id : Int}
    (named : ∀ n a, committed n = some a → a.id = n)
    (h : (m.stage committed sketch).2.row? id ≠ none) : sketch.row? id ≠ none ∨ id ∈ m.rows := by
  cases m with
  | transfer source target amount =>
    simp only [stage] at h
    split_ifs at h <;> exact Or.inl h
  | entry account amount =>
    simp only [stage] at h
    split_ifs at h <;> exact Or.inl h
  | add account amount =>
    by_cases hid : id = account
    · exact Or.inr (hid ▸ List.mem_cons_self)
    · left
      simp only [stage] at h
      split at h
      · exact h
      · rename_i row hrow
        have row_id : row.id = account := by
          rcases Option.or_eq_some_iff.mp hrow with own | ⟨_, theirs⟩
          · exact (Transaction.mem_of_row? own).2
          · exact named account row theirs
        unfold addTo at h
        split at h
        · rename_i a ha
          obtain ⟨balance, _, rfl⟩ := Account.plus_eq_ok_iff.mp ha
          rwa [Transaction.row?_withRow, if_neg (fun heq => hid (heq.trans row_id))] at h
        · rwa [Transaction.row?_withRow, if_neg (fun heq => hid (heq.trans row_id))] at h

end Move

/-! ## Scripts -/

/-- What the calls of a script are answered, in their order. -/
abbrev Answers := List (Except StoreError Shown)

/-- The moves of a transaction, and whether it is committed or rolled back in the end. -/
structure Script where
  moves : List Move
  commits : Bool

namespace Script

/-- The last call of a transaction. -/
def ending (commits : Bool) (t : Nat) (seen : Answers) : Program Answers :=
  match commits with
  | true => .ask (.commit t) fun answer => .done (seen ++ [answer.map fun _ => .ended])
  | false => .ask (.rollback t) fun answer => .done (seen ++ [answer.map fun _ => .ended])

/-- The calls that are left, once some have been answered. -/
def rest (commits : Bool) (t : Nat) : List Move → Answers → Program Answers
  | [], seen => ending commits t seen
  | m :: ms, seen =>
    .ask (m.call t) fun answer => rest commits t ms (seen ++ [answer.map (m.shown t)])

variable (p : Script)

/-- Opens a transaction, makes all calls in their order whatever they are answered, and ends it. -/
def program : Program Answers := .ask .begin fun
  | .ok t => rest p.commits t p.moves []
  | .error e => .done [.error e]

/-- How many calls there are. -/
def length : Nat := p.moves.length + 2

/-- The accounts whose balances are changed. -/
def rows : List Int := p.moves.flatMap Move.rows

/-- What is answered in all and what is staged in the end. -/
def stageAll (committed : Int → Option Account) :
    List Move → Answers → Transaction → Answers × Transaction
  | [], seen, sketch => (seen ++ [.ok .ended], sketch)
  | m :: ms, seen, sketch =>
    stageAll committed ms (seen ++ [(m.stage committed sketch).1]) (m.stage committed sketch).2

def outcome (committed : Int → Option Account) : Answers × Transaction :=
  stageAll committed p.moves [] { ticket := 0 }

/-- What everybody sees of a script that has ended. -/
def published (committed : Int → Option Account) : Transaction :=
  if p.commits then (p.outcome committed).2 else { ticket := 0 }

variable {p} {committed : Int → Option Account} {id : Int}

theorem mem_rows_of_stageAll (named : ∀ n a, committed n = some a → a.id = n) {moves : List Move}
    {seen : Answers} {sketch : Transaction}
    (h : (stageAll committed moves seen sketch).2.row? id ≠ none) :
    sketch.row? id ≠ none ∨ id ∈ moves.flatMap Move.rows := by
  induction moves generalizing seen sketch with
  | nil => exact Or.inl h
  | cons m ms ih =>
    rw [List.flatMap_cons, List.mem_append]
    rcases ih h with staged | later
    · rcases Move.mem_rows_of_stage named staged with before | now
      · exact Or.inl before
      · exact Or.inr (Or.inl now)
    · exact Or.inr (Or.inr later)

theorem mem_rows_of_published (named : ∀ n a, committed n = some a → a.id = n)
    (h : (p.published committed).row? id ≠ none) : id ∈ p.rows := by
  unfold published at h
  split at h
  · rcases mem_rows_of_stageAll named h with empty | mem
    · exact absurd rfl empty
    · exact mem
  · exact absurd rfl h

end Script
end Giro
