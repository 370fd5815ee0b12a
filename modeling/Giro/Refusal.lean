import Giro.Password.Check
import Giro.Store.Error
import Giro.Token.Error

/-!
# Why the service refuses

A refusal says what is wrong in its own words, which `Refusal.message` gives. What a client is told
of it is decided where responses are made.
-/

namespace Giro

inductive Unauthorized where
  | noHeader
  | badHeader
  | unsupportedScheme (scheme : String)
  | token (why : TokenError)
  | incorrectPassword
  | notSourceOwner
  | notOwner
  | notInvolved
  | blockedSession
  | sessionUser
  | sessionToken
  | expiredSession
  | stated (reason : String)

def Unauthorized.message : Unauthorized → String
  | .noHeader => "authorization header is not provided"
  | .badHeader => "invalid authorization header format"
  | .unsupportedScheme scheme => "unsupported authorization type " ++ scheme
  | .token why => why.message
  | .incorrectPassword => "incorrect password"
  | .notSourceOwner => "from account doesn't belong to the authenticated user"
  | .notOwner => "account doesn't belong to the authenticated user"
  | .notInvolved => "transfer doesn't involve the authenticated user"
  | .blockedSession => "blocked session"
  | .sessionUser => "incorrect session user"
  | .sessionToken => "mismatched session token"
  | .expiredSession => "expired session"
  | .stated reason => reason

/-- A fault of the service itself. -/
inductive Malfunction where
  | unreadablePassword (why : Password.RecordError)
  | token (why : TokenError)
  | stated (reason : String)

def Malfunction.message : Malfunction → String
  | .unreadablePassword why => "invalid password hash: " ++ why.message
  | .token why => why.message
  | .stated reason => reason

inductive Refusal where
  | invalid (why : Invalid)
  | unauthorized (why : Unauthorized)
  | notFound (what : Subject)
  | store (why : StoreError)
  | internal (why : Malfunction)

namespace Refusal

def message : Refusal → String
  | .invalid why => why.message
  | .unauthorized why => why.message
  | .notFound what => what.describe ++ " not found"
  | .store why => why.message
  | .internal why => "internal error: " ++ why.message

/-- A token that is not accepted is the caller's fault, one that cannot be made is not. -/
def ofToken : TokenError → Refusal
  | .expired => .unauthorized (.token .expired)
  | .invalid => .unauthorized (.token .invalid)
  | why => .internal (.token why)

def ofPassword : Password.CheckError → Refusal
  | .unreadable why => .internal (.unreadablePassword why)
  | .incorrect => .unauthorized .incorrectPassword

/-- A row that the request names and that is missing is reported as the service's own finding. -/
def ofLookup (what : Subject) : StoreError → Refusal
  | .notFound _ => .notFound what
  | why => .store why

end Refusal
end Giro
