import Giro.Proofs.Isolation
import Giro.Proofs.Turns

/-!
# Programs that come to nothing

A program that does its work in one transaction, run by a task amid the calls of others: it may
fail, overflow, or be cancelled before any of its calls and while one of them waits. Unless it
succeeds, its transaction has not committed and is no longer open, so it has left no trace: the
store is what the others alone have made of it. `Run.isolated` puts this beside what is seen of a
transaction while it is open.
-/

namespace Giro

/-! ## Programs in one transaction -/

/-- A call that neither begins nor ends a transaction. -/
def Call.isInner : Call → Bool
  | .begin | .commit _ | .rollback _ => false
  | _ => true

/-- A program that neither begins nor ends a transaction, and makes no call to any but this one.
What a closure does to another transaction is, for this one, among the calls of others. -/
inductive Confined {α : Type} (t : Nat) : Program α → Prop where
  | done (a : α) : Confined t (.done a)
  | overflow (why : Overflow) : Confined t (.overflow why)
  | ask {c : Call} {next : Except StoreError c.Reply → Program α} (inner : c.isInner)
      (own : ∀ n, c.ticket? = some n → n = t) (rest : ∀ answer, Confined t (next answer)) :
      Confined t (.ask c next)

namespace Confined

variable {α : Type} {t : Nat}

/-- One call and then more of the same. -/
theorem call_bind {c : Call} {f : c.Reply → Attempt StoreError α} (inner : c.isInner)
    (own : ∀ n, c.ticket? = some n → n = t) (hf : ∀ a, Confined t (f a).run) :
    Confined t (Attempt.call c >>= f).run := by
  refine .ask inner own fun answer => ?_
  cases answer with
  | ok a => exact hf a
  | error e => exact .done _

theorem stage (o : TransferOrder) : Confined t (o.stage t).run := by
  have own {c : Call} (h : c.ticket? = some t) : ∀ n, c.ticket? = some n → n = t :=
    fun n hn => Option.some.inj (hn.symm.trans h)
  unfold TransferOrder.stage
  simp only [TransferOrder.moveMoney_eq, bind_assoc, pure_bind]
  refine call_bind rfl (own rfl) fun f => call_bind rfl (own rfl) fun d => ?_
  refine call_bind rfl (own rfl) fun c => call_bind rfl (own rfl) fun a => ?_
  exact call_bind rfl (own rfl) fun b => .done _

end Confined

/-- What follows the body of a transaction. -/
def Attempt.conclude {α : Type} (ticket : Nat) :
    Except StoreError α → Program (Except StoreError α)
  | .ok a => .ask (.commit ticket) fun
    | .ok () => .done (.ok a)
    | .error e => .done (.error e)
  | .error cause => .ask (.rollback ticket) fun
    | .ok () => .done (.error cause)
    | .error rollback => .done (.error (.rollbackFailed cause rollback))

/-! ## A task amid others -/

namespace Task

variable {α : Type}

/-- The call of a task that waits for a row. -/
def waiting? (task : Task α) : Option Waiting :=
  match task.program with
  | .ask c _ => task.waiting.bind fun r => c.purpose?.map (Waiting.mk r)
  | _ => none

/-- The answer that a step of a task brings, if it was to a call past the transactions of the task.
-/
def asides (now : Timestamp) (task : Task α) (s : Store) : List Event :=
  match task.program with
  | .ask c _ =>
    match (Backend.memory.poll now task.waiting c s).2 with
    | .answered answer => if c.isInner ∧ c.ticket? = none then [.answered c answer] else []
    | .waiting _ => []
  | _ => []

end Task

namespace Traffic

variable {α : Type}

/-- How a task that runs a program can stand, with the calls of others that wait, and what has been
answered apart from the calls to its transactions. Nobody else makes calls to those. -/
inductive Amid (p : Program α) (X : Traffic) : List Event → Traffic → Task α → Prop where
  | start : Amid p X [] X ⟨p, none, []⟩
  | own {es : List Event} {s s' : Store} {ws : List Waiting} {task rest : Task α} {now : Timestamp}
      (amid : Amid p X es ⟨s, ws⟩ task)
      (h : Backend.memory.step now task s = (s', .blocked rest)) :
      Amid p X (task.asides now s ++ es) ⟨s', ws⟩ rest
  | others {es events : List Event} {s s' : Store} {ws ws' : List Waiting} {task : Task α}
      (amid : Amid p X es ⟨s, ws⟩ task)
      (step : Step ⟨s, task.waiting?.toList ++ ws⟩ events ⟨s', task.waiting?.toList ++ ws'⟩)
      (foreign : ∀ t ∈ task.opened, (∀ e ∈ events, e.ticket? ≠ some t) ∧ Free t ws') :
      Amid p X (events ++ es) ⟨s', ws'⟩ task

inductive Ending (α : Type) where
  | finished (a : α)
  | overflow (why : Overflow)
  | cancelled

/-- How a task can end, with what that step brings apart from answers to its transactions. -/
inductive Ends (task : Task α) (s : Store) : List Event → Store → Ending α → Prop where
  | finished {s' : Store} {now : Timestamp} {a : α}
      (h : Backend.memory.step now task s = (s', .finished a)) :
      Ends task s (task.asides now s) s' (.finished a)
  | overflow {s' : Store} {now : Timestamp} {why : Overflow}
      (h : Backend.memory.step now task s = (s', .overflow why)) :
      Ends task s (task.asides now s) s' (.overflow why)
  | cancelled : Ends task s [] (Backend.memory.cancel task s) .cancelled

/-- An end that changes nothing that is committed or another's. The transactions of the task have no
rows any more, and nobody waits for them. -/
structure Released (task : Task α) (s : Store) (ws : List Waiting) (s' : Store) : Prop where
  tables : s'.tables = s.tables
  issued : s'.issued = s.issued
  transactions : ∀ tx ∈ s.transactions, tx.ticket ∉ task.opened → tx ∈ s'.transactions
  holds : ∀ r, r.ticket ∉ task.opened → task.waiting ≠ some r → s.Holds r → s'.Holds r
  ended : ∀ r ∈ s'.requests, r.ticket ∉ task.opened
  unblocked : ∀ w ∈ ws, (∃ t ∈ task.opened, s.BlockedOnlyBy t w.request) → s'.Holds w.request

/-- A transaction has been begun on the way from `X` and has not committed. -/
inductive Began (X : Traffic) (t : Nat) : List Event → Traffic → Prop where
  | on {before during : List Event} {s : Store} {ws : List Waiting} {X' : Traffic}
      (ticket : s.begin.1 = t) (first : Path X before ⟨s, ws⟩)
      (path : Path ⟨s.begin.2, ws⟩ during X') (uncommitted : Event.committed t ∉ during) :
      Began X t ((during.filter fun e => e.ticket? ≠ some t) ++ before) X'

/-- No transaction was begun, or one that has not committed and is no longer open. -/
inductive Undone (X : Traffic) (es : List Event) (X' : Traffic) : Prop where
  | unbegun (path : Path X es X')
  | begun {t : Nat} (began : Began X t es X') (closed : X'.store.transaction? t = none)

variable {X X' T : Traffic} {es events : List Event} {t : Nat}

/-- What is left is what others could have made of the store alone. -/
theorem Undone.others (undone : Undone X es X') (o : Orderly X.store X.waiting) :
    Others X es X' := by
  cases undone with
  | unbegun path => exact path.others
  | begun began closed =>
    obtain ⟨rfl, first, path, uncommitted⟩ := began
    have isolated := path.isolation (first.orderly o) uncommitted
    have rest := isolated.others
    rw [(isolated.ended closed).1] at rest
    exact first.others.draw.trans rest

namespace Began

variable (began : Began X t es X')
include began

theorem step (step : Step X' events T) (uncommitted : Event.committed t ∉ events) :
    Began X t ((events.filter fun e => e.ticket? ≠ some t) ++ es) T := by
  obtain ⟨ticket, first, path, before⟩ := began
  rw [← List.append_assoc, ← List.filter_append]
  refine .on ticket first (path.step step) fun h => ?_
  rcases List.mem_append.mp h with h | h
  · exact uncommitted h
  · exact before h

theorem orderly (o : Orderly X.store X.waiting) : Orderly X'.store X'.waiting := by
  obtain ⟨_, first, path, _⟩ := began
  exact path.orderly (first.orderly o).begin

end Began

/-! ## Transactions that stay open -/

theorem isSome_of_mem_tickets {s : Store} (h : t ∈ s.tickets) : (s.transaction? t).isSome :=
  Store.isSome_transaction?_iff.mpr (List.mem_map.mp h)

theorem transaction?_discard_self (s : Store) (t : Nat) :
    (s.discard t).transaction? t = none := by
  simp [Store.transaction?]

theorem Effect.tickets_of_inner {c : Call} {answer : Except StoreError c.Reply}
    (effect : Effect X [.answered c answer] X') (inner : c.isInner) :
    X'.store.tickets = X.store.tickets := by
  cases effect with
  | quiet => rfl
  | createUser h =>
    obtain ⟨_, _, _, rfl⟩ := Store.createUser_eq_ok_iff.mp h
    rfl
  | createSession h =>
    rw [Store.createSession_eq_ok h]
    rfl
  | createAccount h =>
    obtain ⟨_, _, _, rfl⟩ := Store.createAccount_eq_ok_iff.mp h
    rfl
  | begin => cases inner
  | stageTransfer h => exact (Store.stageTransfer_keeps h).tickets
  | stageEntry h => exact (Store.stageEntry_keeps h).tickets
  | addStaged free htx hrow h => exact (Store.addStaged_keeps h).tickets
  | grantAdd holds h => exact (Store.addGranted_keeps h).tickets
  | grantDelete holds h =>
    rcases Store.deleteGranted_cases h with ⟨rfl, _⟩ | ⟨_, _, _, rfl⟩
    · rfl
    · rfl
  | discard isOpen free he =>
    rcases he with he | he
    · cases he
    · cases he
      cases inner
  | commit => cases inner

theorem Step.tickets_of_inner {c : Call} {answer : Except StoreError c.Reply}
    (step : Step X [.answered c answer] X') (inner : c.isInner) :
    X'.store.tickets = X.store.tickets := by
  rcases step.effects with h | ⟨T₁, h₁, h₂⟩
  · exact h.tickets_of_inner inner
  · exact (h₂.tickets_of_inner inner).trans h₁.keeps.tickets

theorem Step.mem_tickets (step : Step X events X') (o : Orderly X.store X.waiting)
    (ht : t ∈ X.store.tickets) (foreign : ∀ e ∈ events, e.ticket? ≠ some t) :
    t ∈ X'.store.tickets := by
  obtain ⟨tx, htx, rfl⟩ := List.mem_map.mp ht
  exact List.mem_map_of_mem (step.spares o htx foreign).mem

/-! ## Where the task stands -/

variable {body : Nat → Attempt StoreError α}

/-- The task is about to begin its transaction, or is inside it. -/
inductive Stands (body : Nat → Attempt StoreError α) (X : Traffic) (es : List Event) :
    Traffic → Task (Except StoreError α) → Prop where
  | fresh {X' : Traffic} (path : Path X es X') :
      Stands body X es X' ⟨(Attempt.atomically body).run, none, []⟩
  | inside {s : Store} {ws : List Waiting} {t : Nat} {c : Call}
      {next : Except StoreError c.Reply → Program (Except StoreError α)} {w : Option LockRequest}
      {p : Program (Except StoreError α)}
      (began : Began X t es ⟨s, (w.bind fun r => c.purpose?.map (Waiting.mk r)).toList ++ ws⟩)
      (isOpen : t ∈ s.tickets) (free : Free t ws) (confined : Confined t p)
      (program : p.bind (Attempt.conclude t) = .ask c next)
      (fits : ∀ r, w = some r → ∃ v : Waiting, v.request = r ∧ v.call = c) :
      Stands body X es ⟨s, ws⟩ ⟨.ask c next, w, [t]⟩

/-- Where a step leaves the task and the others. A task that fails is gone as if cancelled. -/
inductive Arrives (body : Nat → Attempt StoreError α) (X : Traffic) (es es' : List Event)
    (gone : Store) (X' : Traffic) : Outcome (Except StoreError α) → Prop where
  | on {rest : Task (Except StoreError α)} (stands : Stands body X (es' ++ es) X' rest) :
      Arrives body X es es' gone X' (.blocked rest)
  | succeeded (a : α) : Arrives body X es es' gone X' (.finished (.ok a))
  | failed {e : StoreError} (silent : es' = []) (same : X'.store = gone) :
      Arrives body X es es' gone X' (.finished (.error e))
  | overflow {why : Overflow} (undone : Undone X (es' ++ es) X') :
      Arrives body X es es' gone X' (.overflow why)

variable {s s' gone : Store} {ws : List Waiting} {outcome : Outcome (Except StoreError α)}
    {now : Timestamp} {es' : List Event}

theorem filter_own {e : Event} (own : e.ticket? = some t) :
    ([e].filter fun e => e.ticket? ≠ some t) = [] := by
  simp [own]

/-- A transaction that is dropped. -/
theorem Began.dropped (began : Began X t es ⟨s, ws⟩) (isOpen : t ∈ s.tickets) (free : Free t ws) :
    Undone X es ⟨s.discard t, ws⟩ := by
  have step := began.step (.drop (isSome_of_mem_tickets isOpen) free) (by simp [Event.committed])
  rw [filter_own rfl] at step
  exact .begun step (transaction?_discard_self s t)

theorem arrives_of_proceed {p : Program (Except StoreError α)}
    (began : Began X t (es' ++ es) ⟨s, ws⟩) (isOpen : t ∈ s.tickets) (free : Free t ws)
    (confined : Confined t p)
    (h : Backend.memory.proceed [t] s (p.bind (Attempt.conclude t)) = (s', outcome)) :
    Arrives body X es es' gone ⟨s', ws⟩ outcome := by
  have asking {c : Call} {next : Except StoreError c.Reply → Program (Except StoreError α)}
      (program : p.bind (Attempt.conclude t) = .ask c next) :
      Arrives body X es es' gone ⟨s', ws⟩ outcome := by
    rw [program] at h
    cases h
    exact .on (.inside (w := none) began isOpen free confined program fun r hr => by cases hr)
  cases p with
  | done r =>
    cases r with
    | ok a => exact asking rfl
    | error e => exact asking rfl
  | overflow why =>
    cases h
    exact .overflow (began.dropped isOpen free)
  | ask c next => exact asking rfl

theorem asides_of_answered {c : Call} {answer : Except StoreError c.Reply}
    {next : Except StoreError c.Reply → Program α} {w : Option LockRequest} {opened : List Nat}
    (h : Backend.memory.poll now w c s = (s', .answered answer)) :
    Task.asides now ⟨.ask c next, w, opened⟩ s =
      if c.isInner ∧ c.ticket? = none then [.answered c answer] else [] := by
  simp only [Task.asides, h]

theorem asides_of_waiting {c : Call} {next : Except StoreError c.Reply → Program α}
    {w : Option LockRequest} {opened : List Nat} {r : LockRequest}
    (h : Backend.memory.poll now w c s = (s', .waiting r)) :
    Task.asides now ⟨.ask c next, w, opened⟩ s = [] := by
  simp only [Task.asides, h]

theorem track_of_inner {c : Call} (inner : c.isInner) (answer : Except StoreError c.Reply)
    (opened : List Nat) : c.track answer opened = opened := by
  cases c with
  | begin | commit | rollback => cases inner
  | _ => rfl

/-- A call of the body, or the commit or rollback after it. -/
theorem ticket?_of_program {p : Program (Except StoreError α)} {c : Call}
    {next : Except StoreError c.Reply → Program (Except StoreError α)} (confined : Confined t p)
    (program : p.bind (Attempt.conclude t) = .ask c next) :
    ∀ n, c.ticket? = some n → n = t := by
  intro n hn
  cases confined with
  | done r =>
    cases r <;> cases program <;> exact (Option.some.inj hn).symm
  | overflow => cases program
  | ask inner own rest =>
    cases program
    exact own n hn

/-- What a call of the body shows of others is what it shows at all, unless it is to the
transaction. -/
theorem filter_answered {c : Call} (answer : Except StoreError c.Reply) (inner : c.isInner)
    (own : ∀ n, c.ticket? = some n → n = t) :
    ([Event.answered c answer].filter fun e => e.ticket? ≠ some t) =
      if c.isInner ∧ c.ticket? = none then [.answered c answer] else [] := by
  cases hc : c.ticket? with
  | none => simp [inner, Event.ticket?, hc]
  | some n =>
    have := own n hc
    subst this
    simp [Event.ticket?, hc]

theorem arrives_inside {c : Call}
    {next : Except StoreError c.Reply → Program (Except StoreError α)} {w : Option LockRequest}
    {p : Program (Except StoreError α)}
    (began : Began X t es ⟨s, (w.bind fun r => c.purpose?.map (Waiting.mk r)).toList ++ ws⟩)
    (isOpen : t ∈ s.tickets) (free : Free t ws) (confined : Confined t p)
    (program : p.bind (Attempt.conclude t) = .ask c next)
    (fits : ∀ r, w = some r → ∃ v : Waiting, v.request = r ∧ v.call = c)
    (h : Backend.memory.step now ⟨.ask c next, w, [t]⟩ s = (s', outcome)) :
    Arrives body X es (Task.asides now ⟨.ask c next, w, [t]⟩ s)
      (Backend.memory.cancel ⟨.ask c next, w, [t]⟩ s) ⟨s', ws⟩ outcome := by
  have own := ticket?_of_program confined program
  have admits : Admits ws c := fun v hv hc => free v hv (own _ hc)
  rcases hpoll : Backend.memory.poll now w c s with ⟨s₁, status⟩
  rcases @step_of_poll _ _ _ _ [] ws w _ admits fits hpoll with
    ⟨answer, rfl, step⟩ | ⟨v, rfl, rfl, ⟨rfl, step⟩ | ⟨rfl, rfl⟩⟩
  · rw [Backend.step_of_answered hpoll] at h
    rw [asides_of_answered hpoll]
    cases confined with
    | done r =>
      cases r with
      | ok a =>
        cases program
        cases eq_none_of_purpose? rfl fits
        obtain ⟨tx, htx⟩ := Option.isSome_iff_exists.mp (isSome_of_mem_tickets isOpen)
        cases hpoll.symm.trans (Store.perform_commit htx now)
        cases h
        exact .succeeded a
      | error cause =>
        cases program
        cases eq_none_of_purpose? rfl fits
        cases hpoll.symm.trans (Store.perform_rollback (isSome_of_mem_tickets isOpen) now)
        simp only [Call.track, List.erase_cons_head] at h
        cases h
        exact .failed rfl rfl
    | overflow => cases program
    | ask inner own rest =>
      cases program
      rw [← filter_answered answer inner own]
      rw [track_of_inner inner] at h
      refine arrives_of_proceed (began.step step ?_) ?_ free (rest answer) h
      · intro hmem
        cases List.mem_singleton.mp hmem
        cases inner
      · rw [step.tickets_of_inner inner]
        exact isOpen
  · rw [Backend.step_of_waiting hpoll] at h
    cases h
    rw [asides_of_waiting hpoll]
    refine .on (.inside ?_ ?_ free confined program fun r hr => ⟨v, Option.some.inj hr, rfl⟩)
    · simpa [purpose?_call] using began.step step List.not_mem_nil
    · rw [step.keeps.tickets]
      exact isOpen
  · rw [Backend.step_of_waiting hpoll] at h
    cases h
    rw [asides_of_waiting hpoll]
    exact .on (.inside began isOpen free confined program fits)

theorem Stands.arrives {task : Task (Except StoreError α)} (stands : Stands body X es ⟨s, ws⟩ task)
    (confined : ∀ t, Confined t (body t).run) (o : Orderly X.store X.waiting)
    (h : Backend.memory.step now task s = (s', outcome)) :
    Arrives body X es (task.asides now s) (Backend.memory.cancel task s) ⟨s', ws⟩ outcome := by
  cases stands with
  | fresh path =>
    have began : Began X s.begin.1 es ⟨s.begin.2, ws⟩ := .on rfl path .refl List.not_mem_nil
    have isOpen : s.begin.1 ∈ s.begin.2.tickets := by simp [Store.begin, Store.tickets]
    have free : Free s.begin.1 ws := by
      intro w hw ht
      have issued := ((path.orderly o).requests_issued _
        ((path.orderly o).waiting_queued w hw)).1
      simp only [Store.begin, Store.draw] at ht issued
      omega
    exact arrives_of_proceed began isOpen free (confined _) h
  | inside began isOpen free confined program fits =>
    exact arrives_inside began isOpen free confined program fits h

theorem Stands.others {task : Task (Except StoreError α)} {ws' : List Waiting}
    (stands : Stands body X es ⟨s, ws⟩ task) (o : Orderly X.store X.waiting)
    (step : Step ⟨s, task.waiting?.toList ++ ws⟩ events ⟨s', task.waiting?.toList ++ ws'⟩)
    (foreign : ∀ t ∈ task.opened, (∀ e ∈ events, e.ticket? ≠ some t) ∧ Free t ws') :
    Stands body X (events ++ es) ⟨s', ws'⟩ task := by
  cases stands with
  | fresh path => exact .fresh (path.step step)
  | @inside _ _ t _ _ _ _ began isOpen free confined program fits =>
    obtain ⟨no_call, free'⟩ := foreign t (List.mem_singleton_self t)
    have all : (events.filter fun e => e.ticket? ≠ some t) = events :=
      List.filter_eq_self.mpr fun e he => by simpa using no_call e he
    have began' := began.step step fun hcommit => no_call _ hcommit rfl
    rw [all] at began'
    exact .inside began' (step.mem_tickets (began.orderly o) isOpen no_call) free' confined program
      fits

theorem waiting_place (v : Waiting) :
    (Option.bind (some v.request) fun r => v.call.purpose?.map (Waiting.mk r)).toList ++ ws =
      [] ++ v :: ws := by
  simp [purpose?_call]

theorem Stands.cancelled {task : Task (Except StoreError α)}
    (stands : Stands body X es ⟨s, ws⟩ task) :
    Undone X es ⟨Backend.memory.cancel task s, ws⟩ := by
  cases stands with
  | fresh path => exact .unbegun path
  | @inside _ _ t c next w p began isOpen free confined program fits =>
    cases w with
    | none => exact began.dropped isOpen free
    | some r =>
      obtain ⟨v, rfl, rfl⟩ := fits r rfl
      rw [waiting_place] at began
      have gaveUp := began.step .cancel List.not_mem_nil
      exact gaveUp.dropped isOpen free

theorem Amid.stands {task : Task (Except StoreError α)}
    (amid : Amid (Attempt.atomically body).run X es X' task)
    (confined : ∀ t, Confined t (body t).run) (o : Orderly X.store X.waiting) :
    Stands body X es X' task := by
  induction amid with
  | start => exact .fresh .refl
  | own _ h ih =>
    cases ih.arrives confined o h with
    | on stands => exact stands
  | others _ step foreign ih => exact ih.others o step foreign

/-! ## How it ends -/

theorem released_discard {task : Task α} {s₁ : Store} (opened : task.opened = [t])
    (tables : s₁.tables = s.tables) (issued : s₁.issued = s.issued)
    (transactions : s₁.transactions = s.transactions)
    (requests : s₁.requests.Sublist s.requests)
    (holds : ∀ r, task.waiting ≠ some r → s.Holds r → s₁.Holds r) (o : Orderly s₁ ws)
    (free : Free t ws) : Released task s ws (s₁.discard t) := by
  have ended : ∀ r ∈ (s₁.discard t).requests, r.ticket ≠ t :=
    fun r hr => by simpa using (List.mem_filter.mp hr).2
  constructor
  · exact tables
  · exact issued
  · intro tx htx hne
    rw [opened, List.mem_singleton] at hne
    exact List.mem_filter.mpr ⟨transactions ▸ htx, by simpa using hne⟩
  · intro r hne hwaiting hr
    rw [opened, List.mem_singleton] at hne
    exact (holds r hwaiting hr).discard hne
  · intro r hr
    rw [opened, List.mem_singleton]
    exact ended r hr
  · rintro w hw ⟨n, hn, blocked⟩
    rw [opened, List.mem_singleton] at hn
    subst hn
    have hmem : w.request ∈ (s₁.discard n).requests :=
      List.mem_filter.mpr ⟨o.waiting_queued w hw, by simpa using free w hw⟩
    exact (blocked.of_sublist (List.filter_sublist.trans requests)).holds hmem ended

theorem Released.refl {task : Task α} (opened : task.opened = []) :
    Released task s ws s := by
  constructor
  · rfl
  · rfl
  · exact fun _ htx _ => htx
  · exact fun _ _ _ h => h
  · simp [opened]
  · simp [opened]

theorem Stands.released {task : Task (Except StoreError α)}
    (stands : Stands body X es ⟨s, ws⟩ task) (o : Orderly X.store X.waiting) :
    Released task s ws (Backend.memory.cancel task s) := by
  cases stands with
  | fresh path => exact .refl rfl
  | @inside _ _ t c next w p began isOpen free confined program fits =>
    cases w with
    | none =>
      exact released_discard rfl rfl rfl rfl (.refl _) (fun _ _ h => h) (began.orderly o) free
    | some r =>
      obtain ⟨v, rfl, rfl⟩ := fits r rfl
      rw [waiting_place] at began
      have gaveUp := began.step .cancel List.not_mem_nil
      refine released_discard rfl rfl rfl rfl List.erase_sublist ?_ (gaveUp.orderly o) free
      intro q hne holds
      rw [Store.holds_iff] at holds ⊢
      exact Store.find?_erase_of_find? holds fun heq => hne (congrArg some heq.symm)

/-- Wherever a program ends without success, it has had no effect. -/
def LeavesNoTrace (p : Program (Except StoreError α)) (X : Traffic) : Prop :=
  ∀ (es es' : List Event) (s s' : Store) (ws : List Waiting) (task : Task (Except StoreError α))
    (ending : Ending (Except StoreError α)), Amid p X es ⟨s, ws⟩ task → Ends task s es' s' ending →
    (∀ a, ending ≠ .finished (.ok a)) →
    Undone X (es' ++ es) ⟨s', ws⟩ ∧ Others X (es' ++ es) ⟨s', ws⟩ ∧
      ((∀ why, ending ≠ .overflow why) → Released task s ws s')

theorem leavesNoTrace_atomically (confined : ∀ t, Confined t (body t).run)
    (o : Orderly X.store X.waiting) : LeavesNoTrace (Attempt.atomically body).run X := by
  intro es es' s s' ws task ending amid ends fails
  have stands := amid.stands confined o
  have undone := stands.cancelled
  have released := stands.released o
  cases ends with
  | finished h =>
    cases stands.arrives confined o h with
    | succeeded a => exact absurd rfl (fails a)
    | failed silent same =>
      simp only at same
      rw [silent, List.nil_append, same]
      exact ⟨undone, undone.others o, fun _ => released⟩
  | overflow h =>
    cases stands.arrives confined o h with
    | overflow undone => exact ⟨undone, undone.others o, fun h => absurd rfl (h _)⟩
  | cancelled => exact ⟨undone, undone.others o, fun _ => released⟩

/-- A program that asks nothing stays where it starts. -/
theorem Amid.path_of_done {a : α} {task : Task α} (amid : Amid (.done a) X es X' task) :
    Path X es X' ∧ task = ⟨.done a, none, []⟩ := by
  induction amid with
  | start => exact ⟨.refl, rfl⟩
  | own _ h ih =>
    obtain ⟨_, rfl⟩ := ih
    cases h
  | others _ step _ ih =>
    obtain ⟨path, rfl⟩ := ih
    exact ⟨path.step step, rfl⟩

theorem leavesNoTrace_done (e : StoreError) :
    LeavesNoTrace (.done (.error e) : Program (Except StoreError α)) X := by
  intro es es' s s' ws task ending amid ends fails
  obtain ⟨path, rfl⟩ := amid.path_of_done
  have released :
      Released (⟨.done (.error e), none, []⟩ : Task (Except StoreError α)) s ws s := .refl rfl
  cases ends with
  | finished h =>
    cases h
    exact ⟨.unbegun path, path.others, fun _ => released⟩
  | overflow h => cases h
  | cancelled => exact ⟨.unbegun path, path.others, fun _ => released⟩

theorem post_run (order : TransferOrder) : order.post.run = match order.check with
    | .ok () => (Attempt.atomically order.stage).run
    | .error e => .done (.error (.invalid e)) := by
  unfold TransferOrder.post
  cases order.check <;> rfl

theorem leavesNoTrace_post (order : TransferOrder) (o : Orderly X.store X.waiting) :
    LeavesNoTrace order.post.run X := by
  rw [post_run]
  cases order.check with
  | ok u => exact leavesNoTrace_atomically (fun _ => .stage order) o
  | error e => exact leavesNoTrace_done _

/-- A transaction that does not commit, begun in any reachable state: nobody reads anything of it
while it is open, nothing that it does and no end of it changes what is committed or what is
another's, it keeps what it has staged when it fails, and once it has ended nothing is left of it
but the numbers that it drew. A program whose work in a transaction fails or is cancelled, a
transfer too, leaves what the others alone have made of the store. -/
theorem Run.isolated {history : List Event} {s : Store} {ws : List Waiting}
    (run : Run history ⟨s, ws⟩) :
    (∀ (es : List Event) (X : Traffic), Path ⟨s.begin.2, ws⟩ es X →
      Event.committed s.begin.1 ∉ es → Isolated s.begin.1 ⟨s.draw.2, ws⟩ es X) ∧
    (∀ (α : Type) (body : Nat → Attempt StoreError α), (∀ t, Confined t (body t).run) →
      LeavesNoTrace (Attempt.atomically body).run ⟨s, ws⟩) ∧
    ∀ order : TransferOrder, LeavesNoTrace order.post.run ⟨s, ws⟩ := by
  have o := run.orderly
  refine ⟨?_, ?_, ?_⟩
  · intro es X path uncommitted
    exact path.isolation o uncommitted
  · intro α body confined
    exact leavesNoTrace_atomically confined o
  · intro order
    exact leavesNoTrace_post order o

theorem Run.isolated_of_dropped :
    ∃ (h es : List Event) (s : Store) (X : Traffic) (w : Waiting), Run h ⟨s, []⟩ ∧
      Isolated s.begin.1 ⟨s.draw.2, []⟩ es X ∧ w ∈ X.waiting ∧ ¬ X.store.Holds w.request ∧
      (X.store.discard s.begin.1).Holds w.request ∧ X.store.tables = s.tables ∧
      ∃ task, Amid (TransferOrder.post ⟨1, 2, 10⟩).run ⟨s, []⟩ [] ⟨s.begin.2, []⟩ task ∧
        Others ⟨s, []⟩ [] ⟨Backend.memory.cancel task s.begin.2, []⟩ := by
  have run := Run.start.call .epoch (.createUser ⟨"ada", "", "", ""⟩) (by decide) rfl
  have run := run.call .epoch (.createAccount ⟨"ada", .usd, 100⟩) (by decide) rfl
  obtain ⟨separate, _, undone⟩ := run.isolated
  -- The transaction adds to the account, and then a deletion of it waits.
  have isolated := separate _ _
    (.step (.step .refl (@Step.answer _ _ [] .epoch (.addBalance 1 1 25) _ (by decide) rfl))
      (@Step.wait _ _ [] [] .epoch ⟨⟨2, 1⟩, .delete⟩ (by decide) rfl)) (by simp [Event.committed])
  have unblocked := isolated.unblocked ⟨⟨2, 1⟩, .delete⟩ _
    (.step (.refl (List.mem_singleton_self _)) (@Step.drop _ _ 1 rfl (by
      intro v hv
      rw [List.mem_singleton.mp hv]
      decide)) (List.mem_singleton_self _)) rfl (by
    intro q hq _
    cases hq.eq_of_length rfl
    rfl)
  have begun := fun s => Amid.own (@Amid.start _ (TransferOrder.post ⟨1, 2, 10⟩).run ⟨s, []⟩)
    (rfl : Backend.memory.step .epoch _ _ = _)
  refine ⟨_, _, _, _, _, run, isolated, List.mem_singleton_self _, by decide, unblocked.1, rfl,
    _, begun _, ?_⟩
  exact (undone _ _ _ _ _ _ _ _ (begun _) .cancelled fun p h => by cases h).2.1

end Traffic
end Giro
