import Giro.Http.MediaType
import Giro.Http.Response
import Giro.Http.Route

/-!
# What endpoints take from a request

The id in the path, the page in the query, the record in the body, the client's description, and the
user that a token stands for. Each part is read on its own; the order in which an endpoint reads
them decides which fault is reported.
-/

namespace Giro.Http

open Text

/-- An id in the path, percent-decoded. -/
def pathId (segment : String) : Except Rejection Int :=
  match ofUtf8? (percentDecode (utf8 segment)) with
  | none => .error .pathText
  | some s => (Text.Integer.Format.signed64.read s.toList).mapError fun _ => .pathInteger s

def page (r : Request) : Except Rejection Page := (PageQuery.read r.query).mapError .query

/-- The longest body that is read. -/
def bodyLimit : Nat := 2097152

def isTooLong (body : List UInt8) : Bool := !(body.drop bodyLimit).isEmpty

/-- The fields of a record in the body. -/
def record (schema : Json.Schema) (r : Request) : Except Rejection (List Json.FieldValue) :=
  if !((r.headerText? "content-type").any MediaType.isJson) then .error .mediaType
  else if isTooLong r.body then .error .tooLong
  else (schema.decode r.body).mapError .body

/-! ## Records -/

/-- The only text of a record with one field. -/
def oneText : List Json.FieldValue → String
  | [.text s] => s
  | _ => ""

def newAccountSchema : Json.Schema := ⟨"CreateAccountRequest", [("currency", .text)]⟩

def paymentSchema : Json.Schema :=
  ⟨"CreateTransferRequest", [("from_account_id", .integer), ("to_account_id", .integer),
    ("amount", .integer), ("currency", .text)]⟩

def paymentOf : List Json.FieldValue → Payment
  | [.integer source, .integer target, .integer amount, .text currency] =>
    { source, target, amount := Int64.ofInt amount, currency }
  | _ => { source := 0, target := 0, amount := 0, currency := "" }

def registrationSchema : Json.Schema :=
  ⟨"CreateUserRequest",
    [("username", .text), ("password", .text), ("full_name", .text), ("email", .text)]⟩

def registrationOf : List Json.FieldValue → Registration
  | [.text username, .text password, .text fullName, .text email] =>
    { username, password, fullName, email }
  | _ => { username := "", password := "", fullName := "", email := "" }

def credentialsSchema : Json.Schema :=
  ⟨"LoginUserRequest", [("username", .text), ("password", .text)]⟩

def credentialsOf : List Json.FieldValue → Credentials
  | [.text username, .text password] => { username, password }
  | _ => { username := "", password := "" }

def renewalSchema : Json.Schema := ⟨"RenewAccessTokenRequest", [("refresh_token", .text)]⟩

/-! ## Headers -/

/-- The first forwarded address, or else the real one, without blanks around it. -/
def client (r : Request) : Client where
  userAgent := (r.headerText? "user-agent").getD ""
  address :=
    let forwarded := (r.headerText? "x-forwarded-for").map fun v => (fields ',' v.toList).headD []
    let real := (r.headerText? "x-real-ip").map String.toList
    String.ofList (trim ((forwarded <|> real).getD []))

/-- The words of a text between blanks. -/
def words : List Char → List (List Char)
  | [] => []
  | c :: cs =>
    if isBlank c then words cs
    else
      match cs with
      | [] => [[c]]
      | d :: _ =>
        if isBlank d then [c] :: words cs
        else
          match words cs with
          | [] => [[c]]
          | w :: ws => (c :: w) :: ws

/-- The payload of the token that a request presents as its bearer. -/
def authenticate (key : Key) (r : Request) (now : Timestamp) : Except Unauthorized Payload :=
  match r.headerText? "authorization" with
  | none => .error .noHeader
  | some header =>
    match words header.toList with
    | [scheme, token] =>
      if scheme.map Char.toLower = "bearer".toList then
        (key.verify (String.ofList token) .access now).mapError .token
      else .error (.unsupportedScheme (String.ofList scheme))
    | _ => .error .badHeader

end Giro.Http
