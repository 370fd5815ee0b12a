import Giro.Proofs.Contention
import Giro.Proofs.Privacy
import Giro.Proofs.Scripts

/-!
# How far a script has come

A script that nobody is in the way of is taken further by every call: `Script.Part.advance`. What it
is going to answer and to publish is settled by the accounts that were committed at its start, and
each of its calls leaves alone whatever others have staged, locked and asked for.
-/

namespace Giro

open Traffic

/-! ## One call at a time -/

/-- Takes one call further, unless there is none or it has to wait. -/
def Backend.advance? {α : Type} (now : Timestamp) : Outcome α → Store → Option (Store × Outcome α)
  | .blocked task, s =>
    match memory.step now task s with
    | (s', .blocked rest) => if rest.waiting.isSome then none else some (s', .blocked rest)
    | stopped => some stopped
  | _, _ => none

/-- The transactions that a program has open. -/
def Outcome.opened {α : Type} : Outcome α → List Nat
  | .blocked task => task.opened
  | _ => []

namespace Backend

variable {α : Type} {now : Timestamp} {s s' : Store} {c : Call}
    {next : Except StoreError c.Reply → Program α} {opened : List Nat}
    {answer : Except StoreError c.Reply}

theorem advance?_ask (h : s.perform now c = (s', .answered answer))
    (goes : ∃ c' next', next answer = .ask c' next') :
    advance? now (.blocked ⟨.ask c next, none, opened⟩) s =
      some (s', .blocked ⟨next answer, none, c.track answer opened⟩) := by
  obtain ⟨c', next', hnext⟩ := goes
  have hpoll : memory.poll now none c s = (s', .answered answer) := h
  simp only [advance?, step_of_answered hpoll, hnext, proceed]
  rfl

theorem advance?_done (h : s.perform now c = (s', .answered answer)) {a : α}
    (ends : next answer = .done a) (closed : c.track answer opened = []) :
    advance? now (.blocked ⟨.ask c next, none, opened⟩) s = some (s', .finished a) := by
  have hpoll : memory.poll now none c s = (s', .answered answer) := h
  simp only [advance?, step_of_answered hpoll, ends, closed, proceed]
  rfl

/-- A task that is left alone goes on from where one call takes it. -/
theorem go_of_advance? {task : Task α} {o : Outcome α}
    (h : advance? now (.blocked task) s = some (s', o)) :
    memory.go now task s =
      match o with
      | .blocked rest => memory.go now rest s'
      | stopped => (s', stopped) := by
  rw [go_eq_step]
  simp only [advance?] at h
  rcases hstep : memory.step now task s with ⟨u, a | why | rest⟩
  · rw [hstep] at h
    cases h
    rfl
  · rw [hstep] at h
    cases h
    rfl
  · rw [hstep] at h
    simp only at h
    split_ifs at h with hwaiting
    cases h
    simp only [if_neg hwaiting]

end Backend

/-! ## What others keep -/

namespace Store.Private

variable {s s' : Store} {t : Nat} (h : Private t s s')
include h

theorem mem_transactions {tx : Transaction} (htx : tx ∈ s.transactions) (other : tx.ticket ≠ t) :
    tx ∈ s'.transactions := by
  have : tx ∈ s.transactions.filter fun tx => tx.ticket ≠ t :=
    List.mem_filter.mpr ⟨htx, decide_eq_true other⟩
  rw [← h.transactions] at this
  exact List.mem_of_mem_filter this

theorem mem_requests {r : LockRequest} (hr : r ∈ s'.requests) (other : r.ticket ≠ t) :
    r ∈ s.requests := by
  have : r ∈ s'.requests.filter fun r => r.ticket ≠ t :=
    List.mem_filter.mpr ⟨hr, decide_eq_true other⟩
  rw [h.requests] at this
  exact List.mem_of_mem_filter this

end Store.Private

/-- A transaction asks for no rows but those that it has copied. -/
theorem Traffic.Orderly.row?_of_request {s : Store} {ws : List Waiting} (ord : Orderly s ws)
    {t : Nat} {sketch : Transaction} (shows : s.Shows t sketch) (free : Free t ws) :
    ∀ r ∈ s.requests, r.ticket = t → sketch.row? r.account ≠ none := by
  intro r hr ht
  obtain ⟨tx, htx, rfl, mirrors⟩ := shows
  rcases ord.requests_owned r hr with ⟨tx', htx', ht', row, hrow, hid⟩ | ⟨w, hw, rfl⟩
  · cases ord.eq_of_ticket htx' htx (ht'.trans ht)
    rw [← mirrors.rows]
    exact fun hnone => Transaction.row?_eq_none_iff.mp hnone row hrow hid
  · exact absurd ht (free w hw)

theorem Traffic.Free.admits {ws : List Waiting} {t : Nat} {c : Call} (free : Free t ws)
    (ht : c.ticket? = some t) : Admits ws c := by
  intro w hw heq
  exact free w hw (Option.some.inj (heq.symm.trans ht))

/-! ## Scripts under way -/

namespace Script

theorem exists_rest_eq_ask (commits : Bool) (t : Nat) (moves : List Move) (seen : Answers) :
    ∃ c next, rest commits t moves seen = .ask c next := by
  cases moves with
  | nil => cases commits <;> exact ⟨_, _, rfl⟩
  | cons m ms => exact ⟨_, _, rfl⟩

variable (p : Script) (committed : Int → Option Account) (ws : List Waiting) (s s' : Store)

/-- A script with so many calls left. What it is going to answer and to stage in the end has been
settled by the accounts that were committed at its start. -/
inductive Progress : Nat → Outcome Answers → Prop where
  | fresh : Progress p.length (.blocked ⟨p.program, none, []⟩)
  | amid {t : Nat} {moves : List Move} {seen : Answers} {sketch : Transaction}
      (shows : s.Shows t sketch) (locks : ∀ id, sketch.row? id ≠ none → id ∈ p.rows)
      (later : ∀ id ∈ moves.flatMap Move.rows, id ∈ p.rows)
      (leads : stageAll committed moves seen sketch = p.outcome committed) :
      Progress (moves.length + 1) (.blocked ⟨rest p.commits t moves seen, none, [t]⟩)
  | ended : Progress 0 (.finished (p.outcome committed).1)

/-- A script under way whose rows nobody else asks for. -/
structure Part (n : Nat) (o : Outcome Answers) : Prop where
  progress : p.Progress committed s n o
  free : ∀ t ∈ o.opened, Free t ws
  own : ∀ r ∈ s.requests, r.account ∈ p.rows → r.account ∈ s.lockable → r.ticket ∈ o.opened

/-- What everybody sees of a script that has so many calls left. -/
def publishedAt (n : Nat) : Transaction := if n = 0 then p.published committed else { ticket := 0 }

/-- The accounts of a store are to a script what they were at its start. -/
structure Sees : Prop where
  exist : ∀ id, (committed id).isNone = (s.tables.account? id).isNone
  agree : ∀ id ∈ p.rows, committed id = s.tables.account? id

/-- What a call of a script does to the store when so many are left after it, and what it leaves
alone. -/
structure Takes (n : Nat) (o o' : Outcome Answers) : Prop where
  users : s'.tables.users = s.tables.users
  accounts : s'.tables.accounts = s.tables.accounts.map (p.publishedAt committed n).publish
  entries : (s'.tables.entries.map Entry.plain).Perm
    ((p.publishedAt committed n).entries ++ s.tables.entries.map Entry.plain)
  transfers : (s'.tables.transfers.map Transfer.plain).Perm
    ((p.publishedAt committed n).transfers ++ s.tables.transfers.map Transfer.plain)
  issued : s'.issued.account = s.issued.account
  lockable : s'.lockable = s.lockable
  transactions : ∀ tx ∈ s.transactions, tx.ticket ∉ o.opened → tx ∈ s'.transactions
  requests : ∀ r ∈ s'.requests, r ∈ s.requests ∨ r.account ∈ p.rows
  opened : ∀ t ∈ o'.opened, t ∈ o.opened ∨ s.issued.ticket < t

variable {p committed ws s s'} {n : Nat} {o o' : Outcome Answers}

@[simp] theorem publishedAt_succ : p.publishedAt committed (n + 1) = { ticket := 0 } :=
  if_neg n.succ_ne_zero

@[simp] theorem publishedAt_zero : p.publishedAt committed 0 = p.published committed := if_pos rfl

theorem mem_rows_of_publishedAt (named : ∀ n a, committed n = some a → a.id = n) {id : Int}
    (h : (p.publishedAt committed n).row? id ≠ none) : id ∈ p.rows := by
  unfold publishedAt at h
  split at h
  · exact mem_rows_of_published named h
  · exact absurd rfl h

theorem Progress.exists_shows (h : p.Progress committed s n o) :
    ∀ t ∈ o.opened, ∃ sketch, s.Shows t sketch := by
  cases h with
  | fresh => simp [Outcome.opened]
  | amid shows _ _ _ =>
    intro t ht
    rw [List.mem_singleton.mp ht]
    exact ⟨_, shows⟩
  | ended => simp [Outcome.opened]

theorem Progress.eq_finished (h : p.Progress committed s 0 o) :
    o = .finished (p.outcome committed).1 := by
  generalize hn : 0 = n at h
  cases h with
  | fresh => cases hn
  | amid => cases hn
  | ended => rfl

theorem Progress.eq_zero {a : Answers} (h : p.Progress committed s n (.finished a)) : n = 0 := by
  cases h
  rfl

/-- A script does not notice what others do, unless they ask for its rows. -/
theorem Part.frame (part : p.Part committed ws s n o) (lockable : s'.lockable = s.lockable)
    (others : ∀ tx ∈ s.transactions, tx.ticket ∈ o.opened → tx ∈ s'.transactions)
    (requests : ∀ r ∈ s'.requests, r.account ∈ p.rows → r ∈ s.requests) :
    p.Part committed ws s' n o where
  progress := by
    cases part.progress with
    | fresh => exact .fresh
    | amid shows locks later leads =>
      obtain ⟨tx, htx, rfl, mirrors⟩ := shows
      exact .amid ⟨tx, others tx htx List.mem_cons_self, rfl, mirrors⟩ locks later leads
    | ended => exact .ended
  free := part.free
  own r hr hrow hl := part.own r (requests r hr hrow) hrow (lockable ▸ hl)

theorem part_fresh (ord : Orderly s ws) (unlocked : ∀ id ∈ p.rows, s.Unlocked ws id) :
    p.Part committed ws s p.length (.blocked ⟨p.program, none, []⟩) where
  progress := .fresh
  free _ ht := absurd ht List.not_mem_nil
  own r hr hrow hl := absurd rfl (ord.ne_of_unlocked (unlocked _ hrow) hl r hr)

/-! ## What one call does -/

/-- A call that shows nothing to others changes only what is private to its transaction. -/
theorem takes_of_private {t : Nat} (h : Store.Private t s s')
    (silent : p.publishedAt committed n = { ticket := 0 }) (mine : t ∈ o.opened)
    (opened : ∀ u ∈ o'.opened, u ∈ o.opened)
    (asked : ∀ r ∈ s'.requests, r.ticket = t → r.account ∈ p.rows) :
    p.Takes committed s s' n o o' where
  users := by rw [h.tables]
  accounts := by rw [h.tables, silent, Transaction.map_publish_empty]
  entries := by rw [h.tables, silent]; exact .refl _
  transfers := by rw [h.tables, silent]; exact .refl _
  issued := h.account
  lockable := h.lockable
  transactions tx htx other := h.mem_transactions htx fun heq => other (heq ▸ mine)
  requests r hr := by
    by_cases ht : r.ticket = t
    · exact Or.inr (asked r hr ht)
    · exact Or.inl (h.mem_requests hr ht)
  opened u hu := Or.inl (opened u hu)

theorem takes_begin (m : Nat) (program : Program Answers) :
    p.Takes committed s s.begin.2 (m + 1) (.blocked ⟨p.program, none, []⟩)
      (.blocked ⟨program, none, [s.begin.1]⟩) where
  users := rfl
  accounts := by
    rw [publishedAt_succ, Transaction.map_publish_empty]
    rfl
  entries := by rw [publishedAt_succ]; exact .refl _
  transfers := by rw [publishedAt_succ]; exact .refl _
  issued := rfl
  lockable := rfl
  transactions _ htx _ := List.mem_append_left _ htx
  requests _ hr := Or.inl hr
  opened t ht := by
    rw [List.mem_singleton.mp ht]
    exact Or.inr (Nat.lt_succ_self _)

theorem takes_commit {tx : Transaction} {program : Program Answers} {answers : Answers}
    (mirrors : tx.Mirrors (p.published committed)) :
    p.Takes committed s ((s.publish tx).discard tx.ticket) 0
      (.blocked ⟨program, none, [tx.ticket]⟩) (.finished answers) where
  users := rfl
  accounts := by
    rw [publishedAt_zero]
    exact List.map_congr_left fun x _ => mirrors.publish_eq x
  entries := by
    rw [publishedAt_zero, ← mirrors.entries, ← List.map_append]
    exact (Store.Table.perm_insertAll _ _).map _
  transfers := by
    rw [publishedAt_zero, ← mirrors.transfers, ← List.map_append]
    exact (Store.Table.perm_insertAll _ _).map _
  issued := rfl
  lockable := rfl
  transactions u hu other := by
    have : u.ticket ≠ tx.ticket := fun heq => other (List.mem_singleton.mpr heq)
    exact List.mem_filter.mpr ⟨hu, decide_eq_true this⟩
  requests _ hr := Or.inl (List.mem_of_mem_filter hr)
  opened _ ht := absurd ht List.not_mem_nil

/-- Nobody asks for the rows of a script once its transaction has ended. -/
theorem part_ended {t : Nat} {program : Program Answers}
    (part : p.Part committed ws s n (.blocked ⟨program, none, [t]⟩))
    (lockable : s'.lockable = s.lockable)
    (requests : ∀ r ∈ s'.requests, r ∈ s.requests ∧ r.ticket ≠ t) :
    p.Part committed ws s' 0 (.finished (p.outcome committed).1) where
  progress := .ended
  free _ ht := absurd ht List.not_mem_nil
  own r hr hrow hl := by
    obtain ⟨hr, other⟩ := requests r hr
    exact absurd (List.mem_singleton.mp (part.own r hr hrow (lockable ▸ hl))) other

section Advance

variable (ord : Orderly s ws) {now : Timestamp}
include ord

theorem advance_fresh (part : p.Part committed ws s p.length (.blocked ⟨p.program, none, []⟩)) :
    ∃ s' o', Backend.advance? now (.blocked ⟨p.program, none, []⟩) s = some (s', o') ∧
      Orderly s' ws ∧ p.Part committed ws s' (p.moves.length + 1) o' ∧
      p.Takes committed s s' (p.moves.length + 1) (.blocked ⟨p.program, none, []⟩) o' := by
  have hperform : s.perform now .begin = (s.begin.2, .answered (.ok s.begin.1)) := rfl
  refine ⟨s.begin.2, _, Backend.advance?_ask hperform (exists_rest_eq_ask _ _ _ _), ord.begin, ?_,
    takes_begin _ _⟩
  constructor
  · refine .amid ⟨_, List.mem_append_right _ List.mem_cons_self, rfl, Transaction.mirrors_empty _⟩
      ?_ (fun _ h => h) rfl
    intro id hid
    exact absurd rfl hid
  · intro t ht w hw heq
    have := (ord.requests_issued _ (ord.waiting_queued w hw)).1
    rw [heq, List.mem_singleton.mp ht] at this
    exact Nat.not_succ_le_self _ this
  · intro r hr hrow hl
    exact absurd (part.own r hr hrow hl) List.not_mem_nil

theorem advance_move (sees : p.Sees committed s) (named : ∀ n a, committed n = some a → a.id = n)
    {t : Nat} {m : Move} {ms : List Move} {seen : Answers} {sketch : Transaction}
    (shows : s.Shows t sketch) (locks : ∀ id, sketch.row? id ≠ none → id ∈ p.rows)
    (later : ∀ id ∈ (m :: ms).flatMap Move.rows, id ∈ p.rows)
    (leads : stageAll committed (m :: ms) seen sketch = p.outcome committed)
    (part : p.Part committed ws s (ms.length + 2)
      (.blocked ⟨rest p.commits t (m :: ms) seen, none, [t]⟩)) :
    ∃ s' o', Backend.advance? now (.blocked ⟨rest p.commits t (m :: ms) seen, none, [t]⟩) s =
        some (s', o') ∧ Orderly s' ws ∧ p.Part committed ws s' (ms.length + 1) o' ∧
      p.Takes committed s s' (ms.length + 1)
        (.blocked ⟨rest p.commits t (m :: ms) seen, none, [t]⟩) o' := by
  have free : Free t ws := part.free t List.mem_cons_self
  have mine {id : Int} (hid : id ∈ m.rows) : id ∈ p.rows := later id (List.mem_append_left _ hid)
  obtain ⟨s', answer, hperform, hshown, shows'⟩ := m.exists_answer ord shows free
    (fun r hr hrow hl => List.mem_singleton.mp (part.own r hr (mine hrow) hl)) now
  -- Others may have committed since the start, but nothing that a move of this script reads.
  have same : m.stage s.tables.account? sketch = m.stage committed sketch :=
    Move.stage_congr sketch (fun id => (sees.exist id).symm)
      (fun id hid => (sees.agree id (mine hid)).symm)
  rw [same] at hshown shows'
  have priv : Store.Private t s s' :=
    Store.private_perform (m.ticket?_call t) (m.call_ne_commit t) hperform
  have ord' : Orderly s' ws := (Step.answer (free.admits (m.ticket?_call t)) hperform).orderly ord
  have locks' : ∀ id, (m.stage committed sketch).2.row? id ≠ none → id ∈ p.rows := by
    intro id hid
    rcases Move.mem_rows_of_stage named hid with before | now
    · exact locks id before
    · exact mine now
  refine ⟨s', _, Backend.advance?_ask hperform (exists_rest_eq_ask _ _ _ _), ord', ?_, ?_⟩
  · rw [m.track_call, hshown]
    constructor
    · exact .amid shows' locks' (fun id hid => later id (List.mem_append_right _ hid)) leads
    · exact part.free
    · intro r hr hrow hl
      by_cases ht : r.ticket = t
      · exact List.mem_singleton.mpr ht
      · exact part.own r (priv.mem_requests hr ht) hrow (priv.lockable ▸ hl)
  · rw [m.track_call]
    apply takes_of_private priv publishedAt_succ List.mem_cons_self
    · intro u hu
      exact hu
    · intro r hr ht
      exact locks' _ (ord'.row?_of_request shows' free r hr ht)

theorem advance_ending {t : Nat} {seen : Answers} {sketch : Transaction} (shows : s.Shows t sketch)
    (leads : stageAll committed [] seen sketch = p.outcome committed)
    (part : p.Part committed ws s 1 (.blocked ⟨rest p.commits t [] seen, none, [t]⟩)) :
    ∃ s' o', Backend.advance? now (.blocked ⟨rest p.commits t [] seen, none, [t]⟩) s =
        some (s', o') ∧ Orderly s' ws ∧ p.Part committed ws s' 0 o' ∧
      p.Takes committed s s' 0 (.blocked ⟨rest p.commits t [] seen, none, [t]⟩) o' := by
  have free : Free t ws := part.free t List.mem_cons_self
  have isOpen := shows.isOpen
  obtain ⟨tx, htx, rfl, mirrors⟩ := shows
  have answers : seen ++ [.ok .ended] = (p.outcome committed).1 := congrArg Prod.fst leads
  have staged : sketch = (p.outcome committed).2 := congrArg Prod.snd leads
  have discarded : ∀ r ∈ (s.discard tx.ticket).requests, r ∈ s.requests ∧ r.ticket ≠ tx.ticket :=
    fun r hr => ⟨List.mem_of_mem_filter hr, of_decide_eq_true (List.mem_filter.mp hr).2⟩
  cases hcommits : p.commits with
  | true =>
    have hperform := Store.perform_commit (ord.transaction?_eq_some htx) now
    have ord' : Orderly ((s.publish tx).discard tx.ticket) ws :=
      (Step.answer (free.admits rfl) hperform).orderly ord
    rw [hcommits] at part
    refine ⟨_, _, Backend.advance?_done hperform (congrArg Program.done answers)
      (List.erase_cons_head _ _), ord', part_ended part rfl discarded, takes_commit ?_⟩
    rw [published, if_pos hcommits, ← staged]
    exact mirrors
  | false =>
    have hperform := Store.perform_rollback isOpen now
    have ord' : Orderly (s.discard tx.ticket) ws :=
      (Step.answer (free.admits rfl) hperform).orderly ord
    rw [hcommits] at part
    refine ⟨_, _, Backend.advance?_done hperform (congrArg Program.done answers)
      (List.erase_cons_head _ _), ord', part_ended part rfl discarded, ?_⟩
    apply takes_of_private (Store.private_discard s tx.ticket)
    · rw [publishedAt_zero, published, if_neg (by simp [hcommits])]
    · exact List.mem_cons_self
    · intro u hu
      exact absurd hu List.not_mem_nil
    · intro r hr ht
      exact absurd ht (discarded r hr).2

/-- A script that nobody is in the way of never has to wait. -/
theorem Part.advance (sees : p.Sees committed s) (named : ∀ n a, committed n = some a → a.id = n)
    (part : p.Part committed ws s (n + 1) o) (now : Timestamp) :
    ∃ s' o', Backend.advance? now o s = some (s', o') ∧ Orderly s' ws ∧
      p.Part committed ws s' n o' ∧ p.Takes committed s s' n o o' := by
  generalize hm : n + 1 = m at part
  cases part.progress with
  | fresh =>
    cases hm
    exact advance_fresh ord part
  | @amid t moves seen sketch shows locks later leads =>
    cases hm
    cases moves with
    | nil => exact advance_ending ord shows leads part
    | cons m ms => exact advance_move ord sees named shows locks later leads part
  | ended => cases hm

end Advance

end Script
end Giro
