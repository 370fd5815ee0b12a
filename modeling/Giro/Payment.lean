import Giro.Posting
import Giro.Refusal

/-!
# Payments

A payment is a transfer that a user asks for. Posting checks only ids and amounts; here the request
is held against who asks: both accounts must exist in the wanted currency, and the source must be
the caller's.
-/

namespace Giro

structure Payment where
  source : Int
  target : Int
  amount : Amount
  currency : String

namespace Payment

open Attempt

variable (p : Payment)

def order : TransferOrder := ⟨p.source, p.target, p.amount⟩

/-- What can be said of a payment without the store. -/
def check : Except Invalid Currency :=
  if p.source ≤ 0 ∨ p.target ≤ 0 then .error .idsNotPositive
  else if p.amount ≤ 0 then .error .amountNotPositive
  else if p.source = p.target then .error .sameAccount
  else
    match Currency.ofCode? p.currency with
    | none => .error (.unsupportedCurrency p.currency)
    | some currency => .ok currency

/-- Loads an account that must hold the currency. -/
def accountIn (currency : Currency) (id : Int) : Attempt Refusal Account := do
  let account ← mapError (Refusal.ofLookup (.account id)) (call (.getAccount id))
  if account.currency ≠ currency then
    throw (.invalid (.currencyMismatch id account.currency currency))
  return account

def execute (caller : String) : Attempt Refusal Posted := do
  let currency ← demand (p.check.mapError .invalid)
  let source ← accountIn currency p.source
  if source.owner ≠ caller then throw (.unauthorized .notSourceOwner)
  let _ ← accountIn currency p.target
  mapError .store p.order.post

end Payment
end Giro
