import Giro.Backend
import Giro.Http.Extract

/-!
# Answering requests

`Service.respond` is the program that answers one request: route, token, method, then the endpoint.
An endpoint reads path, query and body in this order, and only then asks the store. `Backend.serve`
runs it; a request that has to wait for a row is given up and answered with a timeout. Every answer
to a method that the path does not have names those that it has.
-/

namespace Giro

namespace Http

open Attempt

/-- Reads a part of a request. -/
def reads {α : Type} (r : Except Rejection α) : Attempt Failure α := demand (r.mapError .rejected)

/-- Checks an argument. -/
def checks {α : Type} (r : Except Invalid α) : Attempt Failure α :=
  demand (r.mapError fun e => .refused (.invalid e))

/-- Asks the store; its errors are passed on. -/
def asks (c : Call) : Attempt Failure c.Reply := mapError (fun e => .refused (.store e)) (call c)

/-- Asks the store for a row that the request names. -/
def looksUp (what : Subject) (c : Call) : Attempt Failure c.Reply :=
  mapError (fun e => .refused (Refusal.ofLookup what e)) (call c)

/-- An account that must be the caller's. -/
def ownedAccount (caller : String) (id : Int) : Attempt Failure Account := do
  if id < 1 then throw (.refused (.invalid .accountIdNotPositive))
  let account ← looksUp (.account id) (.getAccount id)
  if account.owner ≠ caller then throw (.refused (.unauthorized .notOwner))
  return account

def health (now : Timestamp) : Attempt Failure Response := do
  asks .ping
  return .ofJson 200 (.object [("status", .text "healthy"), ("database", .text "connected"),
    ("timestamp", timestamp now)])

def createAccount (caller : String) (r : Request) : Attempt Failure Response := do
  let code := oneText (← reads (record newAccountSchema r))
  let currency ← checks <|
    match Currency.ofCode? code with
    | some currency => .ok currency
    | none => .error (.unsupportedCurrency code)
  let account ← asks (.createAccount { owner := caller, currency, balance := 0 })
  return .ofJson 200 account.json

def listAccounts (caller : String) (r : Request) : Attempt Failure Response := do
  let page ← reads (page r)
  let window ← checks page.window
  let accounts ← asks (.listAccounts caller window)
  return .ofJson 200 (.array (accounts.map Account.json))

def getAccount (caller segment : String) : Attempt Failure Response := do
  let id ← reads (pathId segment)
  let account ← ownedAccount caller id
  return .ofJson 200 account.json

def deleteAccount (caller segment : String) : Attempt Failure Response := do
  let id ← reads (pathId segment)
  let _ ← ownedAccount caller id
  let _ ← looksUp (.account id) (.deleteAccount id)
  return .noContent

def listEntries (caller segment : String) (r : Request) : Attempt Failure Response := do
  let id ← reads (pathId segment)
  let page ← reads (page r)
  let window ← checks page.window
  let _ ← ownedAccount caller id
  let entries ← asks (.listEntries id window)
  return .ofJson 200 (.array (entries.map Entry.json))

def createTransfer (caller : String) (r : Request) : Attempt Failure Response := do
  let payment := paymentOf (← reads (record paymentSchema r))
  let posted ← mapError .refused (payment.execute caller)
  return .ofJson 200 posted.json

/-- A transfer is shown to the owners of its accounts. -/
def getTransfer (caller segment : String) : Attempt Failure Response := do
  let id ← reads (pathId segment)
  let transfer ← looksUp (.transfer id) (.getTransfer id)
  let source ← asks (.getAccount transfer.source)
  let target ← asks (.getAccount transfer.target)
  if source.owner ≠ caller ∧ target.owner ≠ caller then
    throw (.refused (.unauthorized .notInvolved))
  return .ofJson 200 transfer.json

def registerUser (r : Request) (salt : List UInt8) : Attempt Failure Response := do
  let registration := registrationOf (← reads (record registrationSchema r))
  let user ← mapError .refused (register registration salt)
  return .ofJson 200 user.json

def logIn (service : Service) (r : Request) (fresh : Fresh) (now : Timestamp) :
    Attempt Failure Response := do
  let credentials := credentialsOf (← reads (record credentialsSchema r))
  let login ← mapError .refused (service.login (client r) credentials fresh now)
  return .ofJson 200 login.json

def renewToken (service : Service) (r : Request) (fresh : Fresh) (now : Timestamp) :
    Attempt Failure Response := do
  let token := oneText (← reads (record renewalSchema r))
  let renewal ← mapError .refused (service.renew token fresh.accessId now)
  return .ofJson 200 renewal.json

/-- What an endpoint does. The caller is the user whose token has been accepted. -/
def perform (service : Service) (endpoint : Endpoint) (caller segment : String) (r : Request)
    (fresh : Fresh) (now : Timestamp) : Attempt Failure Response :=
  match endpoint with
  | .health => health now
  | .register => registerUser r fresh.salt
  | .login => logIn service r fresh now
  | .renew => renewToken service r fresh now
  | .createAccount => createAccount caller r
  | .listAccounts => listAccounts caller r
  | .getAccount => getAccount caller segment
  | .deleteAccount => deleteAccount caller segment
  | .listEntries => listEntries caller segment r
  | .createTransfer => createTransfer caller r
  | .getTransfer => getTransfer caller segment

/-- A response to a failure is a response like any other. -/
def settled (a : Attempt Failure Response) : Program Response :=
  a.run.bind fun
    | .ok response => .done response
    | .error failure => .done failure.response

/-- A response to `HEAD` has no body. -/
def Response.headOnly (method : String) (response : Response) : Response :=
  if method = "HEAD" then { response with body := .empty } else response

/-- A response to a method that the resource does not have names those that it has. -/
def Response.naming (resource : Resource) (method : String) (response : Response) : Response :=
  if (resource.endpoint? method).isNone then { response with allow := some resource.allow }
  else response

/-- The answer to a request that has run out of time. -/
def timeoutOf (r : Request) : Response :=
  match Resource.ofPath? r.path with
  | none => .timeout
  | some resource => Response.timeout.naming resource r.method

end Http

open Http

/-- The caller of a request: nobody where no token is needed. -/
def Service.caller (service : Service) (resource : Resource) (r : Request) (now : Timestamp) :
    Except Unauthorized String :=
  if resource.isProtected then (authenticate service.key r now).map Payload.username else .ok ""

/-- What happens at a resource. The token is judged before the method. -/
def Service.respondAt (service : Service) (resource : Resource) (r : Request) (fresh : Fresh)
    (now : Timestamp) : Program Response :=
  match service.caller resource r now, resource.endpoint? r.method with
  | .error why, _ => .done (.ofNotice (Refusal.unauthorized why).notice)
  | .ok _, none => .done .wrongMethod
  | .ok caller, some endpoint =>
    settled (Http.perform service endpoint caller resource.segment r fresh now)

def Service.respond (service : Service) (r : Request) (fresh : Fresh) (now : Timestamp) :
    Program Response :=
  match Resource.ofPath? r.path with
  | none => .done .noRoute
  | some resource =>
    (service.respondAt resource r fresh now).bind fun response =>
      .done ((response.naming resource r.method).headOnly r.method)

/-- Answers a request at once, or says which arithmetic overflowed. Without any time nothing is done
for it. -/
def Backend.serve {σ : Type} (b : Backend σ) (service : Service) (r : Request) (fresh : Fresh)
    (now : Timestamp) (s : σ) : σ × Except Overflow Response :=
  if service.timeoutSeconds = 0 then (s, .ok (timeoutOf r))
  else match b.run now (service.respond r fresh now) [] s with
  | (s, .finished response) => (s, .ok response)
  | (s, .overflow why) => (s, .error why)
  | (s, .blocked rest) => (b.cancel rest s, .ok (timeoutOf r))

end Giro
