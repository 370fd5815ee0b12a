import Giro.Http.Query
import Giro.Identity
import Giro.Json.Decode
import Giro.Json.Value
import Giro.Payment
import Giro.Text.Calendar

/-!
# Responses

Rows are answered as JSON. A refusal is answered with a status, a code and a message; of a failure
inside the service or its store the client learns only the kind. A request whose parts cannot be
read is answered in plain text.
-/

namespace Giro

namespace Http

inductive Body where
  | empty
  | text (s : String)
  | json (v : Json)

structure Response where
  status : Nat
  contentType : Option String := none
  allow : Option String := none
  body : Body := .empty

namespace Response

def ofJson (status : Nat) (v : Json) : Response :=
  { status, contentType := some "application/json", body := .json v }

def ofText (status : Nat) (s : String) : Response :=
  { status, contentType := some "text/plain; charset=utf-8", body := .text s }

def noContent : Response := { status := 204 }

def noRoute : Response := { status := 404 }

def wrongMethod : Response := { status := 405 }

def timeout : Response := { status := 408 }

end Response

/-! ## Rows -/

def timestamp (t : Timestamp) : Json := .text t.text

def amount (a : Amount) : Json := .number a.toInt

end Http

namespace Account

def json (a : Account) : Json :=
  .object [("id", .number a.id), ("owner", .text a.owner), ("balance", Http.amount a.balance),
    ("currency", .text a.currency.code), ("created_at", Http.timestamp a.createdAt)]

end Account

namespace Entry

def json (e : Entry) : Json :=
  .object [("id", .number e.id), ("account_id", .number e.account),
    ("amount", Http.amount e.amount), ("created_at", Http.timestamp e.createdAt)]

end Entry

namespace Transfer

def json (t : Transfer) : Json :=
  .object [("id", .number t.id), ("from_account_id", .number t.source),
    ("to_account_id", .number t.target), ("amount", Http.amount t.amount),
    ("created_at", Http.timestamp t.createdAt)]

end Transfer

namespace Posted

def json (p : Posted) : Json :=
  .object [("transfer", p.transfer.json), ("from_account", p.source.json),
    ("to_account", p.target.json), ("from_entry", p.debit.json), ("to_entry", p.credit.json)]

end Posted

namespace User

/-- The password hash is never part of an answer. -/
def json (u : User) : Json :=
  .object [("username", .text u.username), ("full_name", .text u.fullName),
    ("email", .text u.email), ("password_changed_at", Http.timestamp u.passwordChangedAt),
    ("created_at", Http.timestamp u.createdAt)]

end User

namespace Login

def json (l : Login) : Json :=
  .object [("session_id", .text l.sessionId.text), ("access_token", .text l.accessToken),
    ("access_token_expires_at", Http.timestamp l.accessExpiresAt),
    ("refresh_token", .text l.refreshToken),
    ("refresh_token_expires_at", Http.timestamp l.refreshExpiresAt), ("user", l.user.json)]

end Login

namespace Renewal

def json (r : Renewal) : Json :=
  .object [("access_token", .text r.accessToken),
    ("access_token_expires_at", Http.timestamp r.expiresAt)]

end Renewal

/-! ## Refusals -/

/-- What a client is told. -/
structure Notice where
  status : Nat
  code : String
  message : String
  deriving DecidableEq

namespace StoreError

def notice : StoreError → Notice
  | .invalid why => ⟨400, "invalid_request", why.message⟩
  | .notFound what => ⟨404, "not_found", what.describe ++ " not found"⟩
  | .constraint breach =>
    match breach.constraint with
    | .unique => ⟨403, "unique_violation", "resource already exists"⟩
    | .foreignKey =>
      ⟨403, "foreign_key_violation", "resource is referenced by or references missing rows"⟩
    | .check | .other => ⟨500, "internal_error", "An internal error occurred"⟩
  | .aborted _ | .rollbackFailed _ _ =>
    ⟨500, "transaction_error", "The transaction could not be completed"⟩

end StoreError

namespace Refusal

def notice : Refusal → Notice
  | .invalid why => ⟨400, "invalid_request", why.message⟩
  | .unauthorized why => ⟨401, "unauthorized", why.message⟩
  | .notFound what => ⟨404, "not_found", what.describe ++ " not found"⟩
  | .store why => why.notice
  | .internal _ => ⟨500, "internal_error", "An internal error occurred"⟩

end Refusal

namespace Http

def Response.ofNotice (n : Notice) : Response :=
  .ofJson n.status
    (.object [("error", .object [("code", .text n.code), ("message", .text n.message)])])

/-! ## Requests that cannot be read -/

inductive Rejection where
  | pathText
  | pathInteger (segment : String)
  | query (why : QueryError)
  | mediaType
  | tooLong
  | body (why : Json.DecodeError)

def Rejection.response : Rejection → Response
  | .pathText => .ofText 400 "Invalid URL: Invalid UTF-8 in `id`"
  | .pathInteger segment => .ofText 400 ("Invalid URL: Cannot parse `" ++ segment ++ "` to a `i64`")
  | .query why => .ofText 400 ("Failed to deserialize query string: " ++ why.message)
  | .mediaType => .ofText 415 "Expected request with `Content-Type: application/json`"
  | .tooLong => .ofText 413 "Failed to buffer the request body: length limit exceeded"
  | .body why =>
    match why.fault with
    | .syntaxError _ => .ofText 400 ("Failed to parse the request body as JSON: " ++ why.message)
    | .meaning _ =>
      .ofText 422 ("Failed to deserialize the JSON body into the target type: " ++ why.message)

/-- Why an endpoint does not answer with success. -/
inductive Failure where
  | rejected (why : Rejection)
  | refused (why : Refusal)

def Failure.response : Failure → Response
  | .rejected why => why.response
  | .refused why => .ofNotice why.notice

end Http
end Giro
