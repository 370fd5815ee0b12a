import Giro.Store.Row

/-!
# Why the store refuses

Each cause has its own constructor; the texts are written in one place. Rows that are missing,
constraints that are broken and transactions that cannot go on are told apart, since callers answer
them differently.
-/

namespace Giro

/-- What was looked for. -/
inductive Subject where
  | user (username : String)
  | session (id : Uuid)
  | account (id : Int)
  | entry (id : Int)
  | transfer (id : Int)
  | named (what : String)

def Subject.describe : Subject → String
  | .user username => "user " ++ username
  | .session id => "session " ++ id.text
  | .account id => s!"account {id}"
  | .entry id => s!"entry {id}"
  | .transfer id => s!"transfer {id}"
  | .named what => what

inductive Constraint where
  | unique
  | foreignKey
  | check
  | other
  deriving DecidableEq

def Constraint.label : Constraint → String
  | .unique => "UniqueViolation"
  | .foreignKey => "ForeignKeyViolation"
  | .check => "CheckViolation"
  | .other => "Other"

/-- A broken constraint. -/
inductive Breach where
  | userTaken (username : String)
  | emailTaken (email : String)
  | sessionTaken (id : Uuid)
  | currencyTaken (owner : String) (currency : Currency)
  | sessionUserMissing (username : String)
  | ownerMissing (owner : String)
  | transferAccountMissing (id : Int)
  | entryAccountMissing (id : Int)
  | accountReferenced (id : Int)
  | amountNotPositive
  | balanceOutOfRange
  | reported (constraint : Constraint) (message : String)

namespace Breach

def constraint : Breach → Constraint
  | .userTaken _ | .emailTaken _ | .sessionTaken _ | .currencyTaken _ _ => .unique
  | .sessionUserMissing _ | .ownerMissing _ | .transferAccountMissing _ | .entryAccountMissing _ =>
    .foreignKey
  | .accountReferenced _ => .foreignKey
  | .amountNotPositive => .check
  | .balanceOutOfRange => .other
  | .reported constraint _ => constraint

def message : Breach → String
  | .userTaken username => "user " ++ username ++ " already exists"
  | .emailTaken email => "email " ++ email ++ " already registered"
  | .sessionTaken id => "session " ++ id.text ++ " already exists"
  | .currencyTaken owner currency => owner ++ " already has a " ++ currency.code ++ " account"
  | .sessionUserMissing username => "session references missing user " ++ username
  | .ownerMissing owner => "account references missing user " ++ owner
  | .transferAccountMissing id => s!"insert on transfers references missing account {id}"
  | .entryAccountMissing id => s!"insert on entries references missing account {id}"
  | .accountReferenced id => s!"account {id} is still referenced by entries or transfers"
  | .amountNotPositive => "transfers.amount must be positive"
  | .balanceOutOfRange => "bigint out of range"
  | .reported _ message => message

end Breach

inductive StoreError where
  | invalid (why : Invalid)
  | notFound (what : Subject)
  | constraint (breach : Breach)
  | aborted (reason : String)
  | rollbackFailed (cause rollback : StoreError)

namespace StoreError

def message : StoreError → String
  | .invalid why => "invalid input: " ++ why.message
  | .notFound what => what.describe ++ " not found"
  | .constraint breach =>
    "persistence error (" ++ breach.constraint.label ++ "): " ++ breach.message
  | .aborted reason => "transaction error: " ++ reason
  | .rollbackFailed cause rollback =>
    "transaction error: " ++ cause.message ++ "; rollback error: " ++ rollback.message

/-- Whether the transaction itself failed, so that trying again may help. -/
def isTransactionError : StoreError → Bool
  | .aborted _ | .rollbackFailed _ _ => true
  | _ => false

end StoreError
end Giro
