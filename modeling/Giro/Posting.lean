import Giro.Program

/-!
# Posting transfers

One transfer is posted in one transaction: the transfer itself, a debit entry on the source, a
credit entry on the target, and both balances. Rows are locked in the order of account ids,
whichever way the money goes, so transfers in opposite directions queue for the same row first.
-/

namespace Giro

namespace Attempt

variable {α : Type}

/-- Runs a body in a transaction: commits if it succeeds, rolls back if it fails. When the rollback
fails too, both errors are reported. -/
def atomically (body : Nat → Attempt StoreError α) : Attempt StoreError α := ExceptT.mk <|
  .ask .begin fun
    | .error e => .done (.error e)
    | .ok ticket => (body ticket).run.bind fun
      | .ok a => .ask (.commit ticket) fun
        | .ok () => .done (.ok a)
        | .error e => .done (.error e)
      | .error cause => .ask (.rollback ticket) fun
        | .ok () => .done (.error cause)
        | .error rollback => .done (.error (.rollbackFailed cause rollback))

end Attempt

/-- Money to be moved. -/
structure TransferOrder where
  source : Int
  target : Int
  amount : Amount

/-- A posted transfer with its entries and the accounts as it left them. -/
structure Posted where
  transfer : Transfer
  source : Account
  target : Account
  debit : Entry
  credit : Entry

namespace TransferOrder

open Attempt

variable (o : TransferOrder)

def check : Except Invalid Unit :=
  if o.source ≤ 0 ∨ o.target ≤ 0 then .error .idsNotPositive
  else if o.amount ≤ 0 then .error .amountNotPositive
  else .ok ()

/-- Two balance updates, in the order given. -/
def addMoney (ticket : Nat) (first : Int) (firstAmount : Amount) (second : Int)
    (secondAmount : Amount) : Attempt StoreError (Account × Account) := do
  let a ← call (.addBalance ticket first firstAmount)
  let b ← call (.addBalance ticket second secondAmount)
  return (a, b)

/-- Updates both balances, the lower id first, and gives the source and the target. If they are one
account, both show its last balance. -/
def moveMoney (ticket : Nat) : Attempt StoreError (Account × Account) := do
  if o.source < o.target then
    addMoney ticket o.source (-o.amount) o.target o.amount
  else
    let (target, source) ← addMoney ticket o.target o.amount o.source (-o.amount)
    return (source, if o.source = o.target then source else target)

/-- The work of a transfer inside its transaction. -/
def stage (ticket : Nat) : Attempt StoreError Posted := do
  let transfer ← call (.stageTransfer ticket o.source o.target o.amount)
  let debit ← call (.stageEntry ticket o.source (-o.amount))
  let credit ← call (.stageEntry ticket o.target o.amount)
  let (source, target) ← o.moveMoney ticket
  return { transfer, source, target, debit, credit }

/-- An order that is not well formed opens no transaction. -/
def post : Attempt StoreError Posted := do
  demand (o.check.mapError .invalid)
  atomically o.stage

end TransferOrder
end Giro
