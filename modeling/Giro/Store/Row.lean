import Giro.Amount
import Giro.Currency
import Giro.Invalid
import Giro.Time
import Giro.Uuid

/-!
# Rows

What the store keeps: users, their login sessions, accounts, the entries on accounts and the
transfers between them. A `New…` record is what the caller supplies; the store adds the id and the
time.
-/

namespace Giro

structure User where
  username : String
  hashedPassword : String
  fullName : String
  email : String
  passwordChangedAt : Timestamp
  createdAt : Timestamp
  deriving DecidableEq

structure NewUser where
  username : String
  hashedPassword : String
  fullName : String
  email : String

/-- A login. The refresh token is kept as its fingerprint. -/
structure Session where
  id : Uuid
  username : String
  refreshToken : String
  userAgent : String
  clientIp : String
  isBlocked : Bool
  expiresAt : Timestamp
  createdAt : Timestamp
  deriving DecidableEq

structure NewSession where
  id : Uuid
  username : String
  refreshToken : String
  userAgent : String
  clientIp : String
  isBlocked : Bool
  expiresAt : Timestamp

structure Account where
  id : Int
  owner : String
  balance : Amount
  currency : Currency
  createdAt : Timestamp
  deriving DecidableEq

structure NewAccount where
  owner : String
  currency : Currency
  balance : Amount

/-- One event on the balance of one account. -/
structure Entry where
  id : Int
  account : Int
  amount : Amount
  createdAt : Timestamp
  deriving DecidableEq

structure Transfer where
  id : Int
  source : Int
  target : Int
  amount : Amount
  createdAt : Timestamp
  deriving DecidableEq

/-- Which rows of a listing are wanted: `limit` of them after the first `offset`. A negative number
counts as zero. -/
structure Window where
  limit : Int
  offset : Int
  deriving DecidableEq

def Window.of {α : Type} (w : Window) (rows : List α) : List α :=
  (rows.drop w.offset.toNat).take w.limit.toNat

/-- A page of a listing, counted from one. -/
structure Page where
  id : Int
  size : Int

/-- Pages hold 5 to 10 rows, and their offset must be a 64-bit number. -/
def Page.window (p : Page) : Except Invalid Window :=
  if p.id < 1 then .error .pageId
  else if p.size < 5 ∨ 10 < p.size then .error .pageSize
  else if Amount.InRange ((p.id - 1) * p.size) then .ok ⟨p.size, (p.id - 1) * p.size⟩
  else .error .pageRange

end Giro
