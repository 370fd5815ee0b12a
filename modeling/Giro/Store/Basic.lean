import Giro.Store.Error
import Giro.Store.Table

/-!
# The store

Committed rows, the numbers already given out, the row locks and the open transactions. An operation
that can fail gives either an error or its answer with the next store, so a failure here changes
nothing. Operations that may have to wait for a row are in `Giro.Store.Lock` and
`Giro.Store.Transaction`.
-/

namespace Giro

/-- Somebody who wants the row of an account, or has it: an open transaction or a deletion, known by
its ticket. -/
structure LockRequest where
  ticket : Nat
  account : Int
  deriving DecidableEq

/-- What an open transaction has staged: its copies of the rows it locked, and new rows. -/
structure Transaction where
  ticket : Nat
  rows : List Account := []
  entries : List Entry := []
  transfers : List Transfer := []

/-- The last number given out in each sequence. Numbers are never given out twice. -/
structure Issued where
  account : Nat := 0
  entry : Nat := 0
  transfer : Nat := 0
  ticket : Nat := 0

/-- The rows that every reader sees. -/
structure Tables where
  users : List User := []
  sessions : List Session := []
  accounts : List Account := []
  entries : List Entry := []
  transfers : List Transfer := []

structure Store where
  tables : Tables := {}
  issued : Issued := {}
  /-- The accounts whose row can be locked. -/
  lockable : List Int := []
  /-- All requests for rows, oldest first. The oldest request for a row has it. -/
  requests : List LockRequest := []
  transactions : List Transaction := []

namespace Tables

variable (t : Tables)

def user? (username : String) : Option User := t.users.find? fun u => u.username == username

def session? (id : Uuid) : Option Session := t.sessions.find? fun s => s.id == id

def account? (id : Int) : Option Account := Store.Table.find? Account.id id t.accounts

def entry? (id : Int) : Option Entry := Store.Table.find? Entry.id id t.entries

def transfer? (id : Int) : Option Transfer := Store.Table.find? Transfer.id id t.transfers

/-- Whether history names the account. -/
def IsReferenced (id : Int) : Prop :=
  (∃ e ∈ t.entries, e.account = id) ∨ ∃ f ∈ t.transfers, f.source = id ∨ f.target = id

instance (id : Int) : Decidable (t.IsReferenced id) := inferInstanceAs (Decidable (_ ∨ _))

end Tables

namespace Store

variable (s : Store)

def empty : Store := {}

def createUser (new : NewUser) (now : Timestamp) : Except StoreError (User × Store) :=
  if (s.tables.user? new.username).isSome then .error (.constraint (.userTaken new.username))
  else if ∃ u ∈ s.tables.users, u.email = new.email then
    .error (.constraint (.emailTaken new.email))
  else
    let user : User := {
      username := new.username
      hashedPassword := new.hashedPassword
      fullName := new.fullName
      email := new.email
      passwordChangedAt := .epoch
      createdAt := now }
    .ok (user, { s with tables.users := s.tables.users ++ [user] })

def createSession (new : NewSession) (now : Timestamp) : Except StoreError (Session × Store) :=
  if (s.tables.user? new.username).isNone then
    .error (.constraint (.sessionUserMissing new.username))
  else if (s.tables.session? new.id).isSome then .error (.constraint (.sessionTaken new.id))
  else
    let session : Session := {
      id := new.id
      username := new.username
      refreshToken := new.refreshToken
      userAgent := new.userAgent
      clientIp := new.clientIp
      isBlocked := new.isBlocked
      expiresAt := new.expiresAt
      createdAt := now }
    .ok (session, { s with tables.sessions := s.tables.sessions ++ [session] })

/-- A user has at most one account in a currency. -/
def createAccount (new : NewAccount) (now : Timestamp) : Except StoreError (Account × Store) :=
  if (s.tables.user? new.owner).isNone then .error (.constraint (.ownerMissing new.owner))
  else if ∃ a ∈ s.tables.accounts, a.owner = new.owner ∧ a.currency = new.currency then
    .error (.constraint (.currencyTaken new.owner new.currency))
  else
    let account : Account := {
      id := s.issued.account + 1
      owner := new.owner
      balance := new.balance
      currency := new.currency
      createdAt := now }
    .ok (account, { s with
      tables.accounts := s.tables.accounts ++ [account]
      issued.account := s.issued.account + 1
      lockable := account.id :: s.lockable })

def getUser (username : String) : Except StoreError User :=
  match s.tables.user? username with
  | some u => .ok u
  | none => .error (.notFound (.user username))

def getSession (id : Uuid) : Except StoreError Session :=
  match s.tables.session? id with
  | some session => .ok session
  | none => .error (.notFound (.session id))

def getAccount (id : Int) : Except StoreError Account :=
  match s.tables.account? id with
  | some a => .ok a
  | none => .error (.notFound (.account id))

def getEntry (id : Int) : Except StoreError Entry :=
  match s.tables.entry? id with
  | some e => .ok e
  | none => .error (.notFound (.entry id))

def getTransfer (id : Int) : Except StoreError Transfer :=
  match s.tables.transfer? id with
  | some f => .ok f
  | none => .error (.notFound (.transfer id))

def listAccounts (owner : String) (w : Window) : List Account :=
  w.of (s.tables.accounts.filter fun a => a.owner = owner)

def listEntries (account : Int) (w : Window) : List Entry :=
  w.of (s.tables.entries.filter fun e => e.account = account)

/-- The transfers that leave the one account or arrive at the other. -/
def listTransfers (source target : Int) (w : Window) : List Transfer :=
  w.of (s.tables.transfers.filter fun f => f.source = source ∨ f.target = target)

end Store
end Giro
