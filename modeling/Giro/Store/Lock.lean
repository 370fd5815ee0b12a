import Giro.Store.Basic

/-!
# Row locks

All requests for rows stand in one queue, oldest first. The oldest request for an account holds its
row and the others wait, so taking a request away passes the row on at once, to the one that has
waited longest. Only an account that is registered as lockable can be requested.
-/

namespace Giro.Store

variable (s : Store)

/-- The ticket that has the row. -/
def holder? (account : Int) : Option Nat :=
  (s.requests.find? fun r => r.account == account).map LockRequest.ticket

def Holds (r : LockRequest) : Prop := s.holder? r.account = some r.ticket

instance (r : LockRequest) : Decidable (s.Holds r) := inferInstanceAs (Decidable (_ = _))

/-- Joins the queue, unless the account has no row to lock. -/
def request? (r : LockRequest) : Option Store :=
  if r.account ∈ s.lockable then some { s with requests := s.requests ++ [r] } else none

/-- Leaves the queue, or gives the row back. -/
def withdraw (r : LockRequest) : Store := { s with requests := s.requests.erase r }

/-- Draws a ticket. -/
def draw : Nat × Store := (s.issued.ticket + 1, { s with issued.ticket := s.issued.ticket + 1 })

/-- How far an operation has come. -/
inductive Status (α : Type) where
  | answered (answer : Except StoreError α)
  | waiting (request : LockRequest)

/-- Deletes an account whose row the request has; the row is given back in any case. -/
def deleteGranted (r : LockRequest) : Store × Except StoreError Unit :=
  let s := s.withdraw r
  if (s.tables.account? r.account).isNone then (s, .error (.notFound (.account r.account)))
  else if s.tables.IsReferenced r.account then
    (s, .error (.constraint (.accountReferenced r.account)))
  else
    ({ s with
      tables.accounts := s.tables.accounts.filter fun a => a.id ≠ r.account
      lockable := s.lockable.filter (· ≠ r.account) }, .ok ())

/-- Deletes an account that history does not name, once nobody else has its row. -/
def deleteAccount (id : Int) : Store × Status Unit :=
  let (ticket, drawn) := s.draw
  match drawn.request? ⟨ticket, id⟩ with
  | none => (s, .answered (.error (.notFound (.account id))))
  | some queued =>
    if queued.Holds ⟨ticket, id⟩ then
      let (next, answer) := queued.deleteGranted ⟨ticket, id⟩
      (next, .answered answer)
    else (queued, .waiting ⟨ticket, id⟩)

end Giro.Store
