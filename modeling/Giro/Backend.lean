import Giro.Program
import Giro.Store.Database

/-!
# Backends

Whatever answers calls: a state, a way to carry out a call or go on with a waiting one, and two ways
to give up, for a request that waits and for an open transaction. The store in memory is one
backend; a closed pool is another, which answers every call with the same failure.
-/

namespace Giro

open Store (Status)

structure Backend (σ : Type) where
  perform : Timestamp → (c : Call) → σ → σ × Status c.Reply
  resume : Timestamp → LockRequest → (c : Call) → σ → σ × Status c.Reply
  withdraw : LockRequest → σ → σ
  discard : Nat → σ → σ

namespace Backend

variable {σ : Type}

def memory : Backend Store where
  perform := Store.perform
  resume := Store.resume
  withdraw r s := s.withdraw r
  discard ticket s := s.discard ticket

def closedPool : Backend σ where
  perform _ _ s := (s, .answered (.error DatabaseFailure.poolClosed.toStoreError))
  resume _ _ _ s := (s, .answered (.error DatabaseFailure.poolClosed.toStoreError))
  withdraw _ s := s
  discard _ s := s

end Backend

/-! ## Running programs -/

/-- A program under way: the request that its next call waits for, and the transactions it has open.
-/
structure Task (α : Type) where
  program : Program α
  waiting : Option LockRequest := none
  opened : List Nat := []

/-- Where a run stops. -/
inductive Outcome (α : Type) where
  | finished (a : α)
  | overflow (why : Overflow)
  | blocked (rest : Task α)

namespace Backend

variable {σ α : Type} (b : Backend σ) (now : Timestamp)

/-- Ends transactions that nobody is going to end. -/
def discardAll (tickets : List Nat) (s : σ) : σ :=
  tickets.foldl (fun s ticket => b.discard ticket s) s

/-- Runs a program until it is done or has to wait. -/
def run : Program α → List Nat → σ → σ × Outcome α
  | .done a, opened, s => (b.discardAll opened s, .finished a)
  | .overflow why, opened, s => (b.discardAll opened s, .overflow why)
  | .ask c next, opened, s =>
    match b.perform now c s with
    | (s, .answered answer) => run (next answer) (c.track answer opened) s
    | (s, .waiting r) => (s, .blocked ⟨.ask c next, some r, opened⟩)

/-- Goes on with a task until it is done or has to wait again. -/
def go (t : Task α) (s : σ) : σ × Outcome α :=
  match t.waiting, t.program with
  | some r, .ask c next =>
    match b.resume now r c s with
    | (s, .answered answer) => b.run now (next answer) (c.track answer t.opened) s
    | (s, .waiting r) => (s, .blocked { t with waiting := some r })
  | _, program => b.run now program t.opened s

/-- Drops a task: its request leaves the queue and its transactions end without a trace. -/
def cancel (t : Task α) (s : σ) : σ :=
  let s := match t.waiting with
    | some r => b.withdraw r s
    | none => s
  b.discardAll t.opened s

end Backend
end Giro
