import Giro.Text.Fields

/-!
# Routes

The paths that exist, the methods of each in the order in which they are registered, and which of
them need a token. A path matches as it is written, segment by segment; a trailing slash makes
another path, so an id can be empty only inside a path. `HEAD` is served like `GET`.
-/

namespace Giro.Http

open Text

inductive Method where
  | get
  | post
  | delete
  deriving DecidableEq

/-- What is done for a request. -/
inductive Endpoint where
  | health
  | register
  | login
  | renew
  | createAccount
  | listAccounts
  | getAccount
  | deleteAccount
  | listEntries
  | createTransfer
  | getTransfer
  deriving DecidableEq

/-- A path that exists, with the id in it as it is written. -/
inductive Resource where
  | health
  | users
  | login
  | renewal
  | accounts
  | account (id : String)
  | entries (account : String)
  | transfers
  | transfer (id : String)
  deriving DecidableEq

namespace Resource

def ofPath? (path : String) : Option Resource :=
  match (fields '/' path.toList).map String.ofList with
  | ["", "health"] => some .health
  | ["", "users"] => some .users
  | ["", "users", "login"] => some .login
  | ["", "tokens", "renew_access"] => some .renewal
  | ["", "accounts"] => some .accounts
  | ["", "accounts", id] => if id.isEmpty then none else some (.account id)
  | ["", "accounts", id, "entries"] => some (.entries id)
  | ["", "transfers"] => some .transfers
  | ["", "transfers", id] => if id.isEmpty then none else some (.transfer id)
  | _ => none

/-- Accounts and transfers are for users with a token. -/
def isProtected : Resource → Bool
  | .health | .users | .login | .renewal => false
  | .accounts | .account _ | .entries _ | .transfers | .transfer _ => true

def methods : Resource → List (Method × Endpoint)
  | .health => [(.get, .health)]
  | .users => [(.post, .register)]
  | .login => [(.post, .login)]
  | .renewal => [(.post, .renew)]
  | .accounts => [(.post, .createAccount), (.get, .listAccounts)]
  | .account _ => [(.get, .getAccount), (.delete, .deleteAccount)]
  | .entries _ => [(.get, .listEntries)]
  | .transfers => [(.post, .createTransfer)]
  | .transfer _ => [(.get, .getTransfer)]

/-- The id in the path. -/
def segment : Resource → String
  | .account id | .entries id | .transfer id => id
  | _ => ""

def endpoint? (r : Resource) (method : String) : Option Endpoint :=
  let wanted := match method with
    | "GET" | "HEAD" => some Method.get
    | "POST" => some .post
    | "DELETE" => some .delete
    | _ => none
  wanted.bind fun m => (r.methods.find? fun p => p.1 == m).map Prod.snd

def Method.allowed : Method → List String
  | .get => ["GET", "HEAD"]
  | .post => ["POST"]
  | .delete => ["DELETE"]

/-- The methods that are served, as a refused request is told. -/
def allow (r : Resource) : String := ",".intercalate (r.methods.flatMap fun p => Method.allowed p.1)

end Resource
end Giro.Http
