import Giro.Backend
import Giro.Posting
import Giro.Proofs.Traffic

/-!
# Callers of one store

Many tasks at one store, each with a job of its own: a user or an account is made, an account is
closed, or a transfer is posted. `Backend.step` lets one task make one call, which is all that
happens in between two steps of the others, and `Backend.go_eq_step` says that a task that is left
alone makes step after step. `Pool.Run` is any order in which callers arrive, make their calls and
are cancelled.
-/

namespace Giro

open Store (Status)

theorem Attempt.run_map {ε α β : Type} (f : α → β) (a : Attempt ε α) :
    (f <$> a).run = a.run.bind fun r => .done (r.map f) := by
  refine congrArg (Program.bind a.run) (funext fun r => ?_)
  cases r <;> rfl

theorem Attempt.run_bind_pure {ε α β : Type} (f : α → β) (a : Attempt ε α) :
    (a >>= fun x => pure (f x)).run = a.run.bind fun r => .done (r.map f) := by
  rw [← run_map, map_eq_pure_bind]

namespace Backend

variable {σ α : Type} (b : Backend σ) (now : Timestamp)

def poll : Option LockRequest → (c : Call) → σ → σ × Status c.Reply
  | none, c, s => b.perform now c s
  | some r, c, s => b.resume now r c s

/-- A task ends with its last answer and not in a step of its own. -/
def proceed (opened : List Nat) (s : σ) : Program α → σ × Outcome α
  | .done a => (b.discardAll opened s, .finished a)
  | .overflow why => (b.discardAll opened s, .overflow why)
  | .ask c next => (s, .blocked ⟨.ask c next, none, opened⟩)

def step (t : Task α) (s : σ) : σ × Outcome α :=
  match t.program with
  | .ask c next =>
    match b.poll now t.waiting c s with
    | (s, .answered answer) => b.proceed (c.track answer t.opened) s (next answer)
    | (s, .waiting r) => (s, .blocked ⟨.ask c next, some r, t.opened⟩)
  | program => b.proceed t.opened s program

variable {b now} {s s' : σ} {w : Option LockRequest} {c : Call}
    {next : Except StoreError c.Reply → Program α} {opened : List Nat}

theorem step_of_answered {answer : Except StoreError c.Reply}
    (h : b.poll now w c s = (s', .answered answer)) :
    b.step now ⟨.ask c next, w, opened⟩ s = b.proceed (c.track answer opened) s' (next answer) := by
  simp only [step, h]

theorem step_of_waiting {r : LockRequest} (h : b.poll now w c s = (s', .waiting r)) :
    b.step now ⟨.ask c next, w, opened⟩ s = (s', .blocked ⟨.ask c next, some r, opened⟩) := by
  simp only [step, h]

theorem run_eq_proceed (p : Program α) (opened : List Nat) (s : σ) :
    b.run now p opened s =
      match b.proceed opened s p with
      | (s', .blocked rest) => b.go now rest s'
      | stopped => stopped := by
  cases p <;> rfl

theorem go_eq_poll (w : Option LockRequest) (c : Call)
    (next : Except StoreError c.Reply → Program α) (opened : List Nat) (s : σ) :
    b.go now ⟨.ask c next, w, opened⟩ s =
      match b.poll now w c s with
      | (s', .answered answer) => b.run now (next answer) (c.track answer opened) s'
      | (s', .waiting r) => (s', .blocked ⟨.ask c next, some r, opened⟩) := by
  cases w with
  | none =>
    rcases h : b.perform now c s with ⟨s', answer | r⟩
    · simp only [go, run, poll, h]
    · simp only [go, run, poll, h]
  | some r => rfl

/-- Left alone, a task makes step after step until it stops or has to wait. -/
theorem go_eq_step (t : Task α) (s : σ) : b.go now t s =
    match b.step now t s with
    | (s', .blocked rest) => if rest.waiting.isSome then (s', .blocked rest) else b.go now rest s'
    | stopped => stopped := by
  obtain ⟨program, w, opened⟩ := t
  cases program with
  | done a => cases w <;> rfl
  | overflow why => cases w <;> rfl
  | ask c next =>
    rw [go_eq_poll]
    rcases h : b.poll now w c s with ⟨s', answer | r⟩
    · simp only [step_of_answered h, run_eq_proceed]
      cases next answer <;> rfl
    · simp [step_of_waiting h]

/-- What each step of a task that is left alone preserves holds until its last step. -/
theorem exists_last_step {P : σ → Task α → Prop} {s s' : σ} {opened : List Nat} {p : Program α}
    {outcome : Outcome α} (on : ∀ s s' t rest, P s t → b.step now t s = (s', .blocked rest) →
      P s' rest) (start : P s ⟨p, none, opened⟩) (h : b.run now p opened s = (s', outcome)) :
    ∃ s₁ t, P s₁ t ∧ b.step now t s₁ = (s', outcome) := by
  induction p generalizing s opened with
  | done a => exact ⟨s, _, start, h⟩
  | overflow why => exact ⟨s, _, start, h⟩
  | ask c next ih =>
    rcases hp : b.perform now c s with ⟨s₁, answer | q⟩
    · have hstep : b.step now ⟨.ask c next, none, opened⟩ s =
          b.proceed (c.track answer opened) s₁ (next answer) := step_of_answered hp
      have hrun : b.run now (next answer) (c.track answer opened) s₁ = (s', outcome) := by
        rw [← h]
        simp only [run, hp]
      cases hnext : next answer with
      | done a =>
        rw [hnext] at hstep hrun
        exact ⟨s, _, start, hstep.trans hrun⟩
      | overflow why =>
        rw [hnext] at hstep hrun
        exact ⟨s, _, start, hstep.trans hrun⟩
      | ask c' next' =>
        rw [hnext] at hstep
        exact ih answer (hnext ▸ on _ _ _ _ start hstep) hrun
    · refine ⟨s, _, start, (step_of_waiting (w := none) hp).trans ?_⟩
      rw [← h]
      simp only [run, hp]

/-- A program goes on with what it is answered. -/
theorem run_answered {ε β : Type} {c : Call} {now : Timestamp} {s s' : Store}
    {answer : Except StoreError c.Reply} (h : s.perform now c = (s', .answered answer))
    (g : StoreError → ε) (f : c.Reply → Attempt ε β) (opened : List Nat) :
    memory.run now (Attempt.mapError g (Attempt.call c) >>= f).run opened s =
      memory.run now (match answer with
        | .ok a => (f a).run
        | .error e => .done (.error (g e))) (c.track answer opened) s' := by
  have hperform : memory.perform now c s = (s', .answered answer) := h
  change memory.run now (.ask c _) opened s = _
  simp only [run, hperform]
  cases answer <;> rfl

theorem run_read {ε β : Type} {c : Call} (reads : c.isRead) {now : Timestamp} {s : Store}
    {answer : Except StoreError c.Reply} (h : s.perform now c = (s, .answered answer))
    (g : StoreError → ε) (f : c.Reply → Attempt ε β) :
    memory.run now (Attempt.mapError g (Attempt.call c) >>= f).run [] s =
      memory.run now (match answer with
        | .ok a => (f a).run
        | .error e => .done (.error (g e))) [] s := by
  have track : c.track answer [] = [] := by
    cases c <;> first | rfl | cases reads
  rw [run_answered h, track]

end Backend

/-! ## Jobs -/

inductive Job where
  | register (new : NewUser)
  | openAccount (new : NewAccount)
  | closeAccount (id : Int)
  | transfer (o : TransferOrder)

inductive Receipt where
  | registered (u : User)
  | opened (a : Account)
  | closed
  | posted (p : Posted)

def Receipt.opened? : Receipt → Option Account
  | .opened a => some a
  | _ => none

def Receipt.posted? : Receipt → Option Posted
  | .posted p => some p
  | _ => none

def Job.attempt : Job → Attempt StoreError Receipt
  | .register new => .registered <$> Attempt.call (.createUser new)
  | .openAccount new => .opened <$> Attempt.call (.createAccount new)
  | .closeAccount id => (fun _ => .closed) <$> Attempt.call (.deleteAccount id)
  | .transfer o => .posted <$> o.post

/-- A job under way. -/
structure Caller where
  job : Job
  task : Task (Except StoreError Receipt)

def Job.start (j : Job) : Caller := ⟨j, ⟨j.attempt.run, none, []⟩⟩

/-- A store, its callers, and what has come of those that have finished, the latest first. -/
structure Pool where
  store : Store
  callers : List Caller := []
  finished : List (Job × Except StoreError Receipt) := []

namespace Pool

inductive Step : Pool → Pool → Prop where
  | arrive {s : Store} {cs : List Caller} {fs : List (Job × Except StoreError Receipt)} (j : Job) :
      Step ⟨s, cs, fs⟩ ⟨s, cs ++ [j.start], fs⟩
  | advance {s s' : Store} {before after : List Caller}
      {fs : List (Job × Except StoreError Receipt)} {c : Caller} {now : Timestamp}
      {rest : Task (Except StoreError Receipt)}
      (h : Backend.memory.step now c.task s = (s', .blocked rest)) :
      Step ⟨s, before ++ c :: after, fs⟩ ⟨s', before ++ { c with task := rest } :: after, fs⟩
  | finish {s s' : Store} {before after : List Caller}
      {fs : List (Job × Except StoreError Receipt)} {c : Caller} {now : Timestamp}
      {result : Except StoreError Receipt}
      (h : Backend.memory.step now c.task s = (s', .finished result)) :
      Step ⟨s, before ++ c :: after, fs⟩ ⟨s', before ++ after, (c.job, result) :: fs⟩
  | cancel {s : Store} {before after : List Caller}
      {fs : List (Job × Except StoreError Receipt)} {c : Caller} :
      Step ⟨s, before ++ c :: after, fs⟩ ⟨Backend.memory.cancel c.task s, before ++ after, fs⟩

/-- What can come of a store, whoever comes and in whatever order they make their calls. -/
inductive Run (s₀ : Store) : Pool → Prop where
  | start : Run s₀ ⟨s₀, [], []⟩
  | step {w w' : Pool} (run : Run s₀ w) (step : Step w w') : Run s₀ w'

/-- Lets the caller at a position make its next call. -/
def turn (w : Pool) (now : Timestamp) (i : Nat) : Pool :=
  match w.callers[i]? with
  | none => w
  | some c =>
    match Backend.memory.step now c.task w.store with
    | (s, .blocked rest) => ⟨s, w.callers.set i { c with task := rest }, w.finished⟩
    | (s, .finished result) => ⟨s, w.callers.eraseIdx i, (c.job, result) :: w.finished⟩
    | (_, .overflow _) => w

theorem Run.arrive {s₀ : Store} {w : Pool} (run : Run s₀ w) (j : Job) :
    Run s₀ ⟨w.store, w.callers ++ [j.start], w.finished⟩ :=
  run.step (.arrive j)

theorem Run.turn {s₀ : Store} {w : Pool} (run : Run s₀ w) (now : Timestamp) (i : Nat) :
    Run s₀ (w.turn now i) := by
  unfold Pool.turn
  split
  · exact run
  · rename_i c hc
    obtain ⟨hi, hget⟩ := List.getElem?_eq_some_iff.mp hc
    obtain ⟨s, callers, fs⟩ := w
    have hsplit : callers = callers.take i ++ c :: callers.drop (i + 1) := by
      rw [← hget, List.getElem_cons_drop hi, List.take_append_drop]
    split
    · rename_i s' rest h
      rw [List.set_eq_take_append_cons_drop, if_pos hi]
      rw [hsplit] at run
      exact run.step (.advance h)
    · rename_i s' result h
      rw [List.eraseIdx_eq_take_drop_succ]
      rw [hsplit] at run
      exact run.step (.finish h)
    · exact run

/-- The jobs that succeeded, the latest first. -/
def successes (w : Pool) : List (Job × Receipt) :=
  w.finished.filterMap fun f => f.2.toOption.map (Prod.mk f.1)

end Pool

/-- A store that somebody has used before and that nobody uses now. -/
def Store.Settled (s : Store) : Prop :=
  (∃ history, Traffic.Run history ⟨s, []⟩) ∧ s.transactions = []

theorem Store.settled_empty : Store.empty.Settled := ⟨⟨[], .start⟩, rfl⟩

end Giro
