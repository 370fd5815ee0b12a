import Giro.Codec.Base64
import Giro.Codec.Hex
import Giro.Digest.Sha256
import Giro.Text.Fields
import Giro.Token.Error
import Giro.Token.Header

/-!
# Issuing and verifying tokens

A token is header, claims and signature, each in Base64, with dots between them. The signature is
the keyed hash of the first two parts as they are written. Verification asks in this order: form and
signature, an expiry not before 1970, expiry, audience, kind, and dates of the calendar. Only a
token that is past its expiry is expired; everything else is invalid.
-/

namespace Giro

open Codec Digest Text

/-- What a verified token stands for. -/
structure Payload where
  id : Uuid
  username : String
  issuedAt : Timestamp
  expiresAt : Timestamp
  deriving DecidableEq

/-- A signing key of at least 32 characters. -/
structure Key where
  text : String
  long : 32 ≤ text.length

namespace Key

def ofText? (s : String) : Except TokenError Key :=
  if h : 32 ≤ s.length then .ok ⟨s, h⟩ else .error .keyTooShort

/-- How a key is shown, whatever its text. -/
def shown (_ : Key) : String := "TokenMaker \x7b .. \x7d"

variable (key : Key)

/-- The signature of a message, as it is written. -/
def sign (message : List Char) : List Char :=
  Base64.encode .url (Sha256.hmac (utf8 key.text) (utf8 (String.ofList message)))

/-- The text of a token with these claims. -/
def encode (c : Claims) : List Char :=
  let message := Base64.encode .url Token.writeHeader ++ '.' :: Base64.encode .url c.write
  message ++ '.' :: key.sign message

/-- The claims of a token whose form and signature are right. -/
def decode? (token : List Char) : Option Claims := do
  let (message, signature) ← cutLast? '.' token
  let (header, claims) ← cutLast? '.' message
  guard ((Base64.decode .url header).any Token.Header.accepts)
  guard (signature = key.sign message)
  Claims.read (← Base64.decode .url claims)

/-- Issues a token with whole seconds. -/
def issue (id : Uuid) (username : String) (kind : TokenKind) (duration : Span) (now : Timestamp) :
    Except TimeOverflow (String × Payload) := do
  let issuedAt := now.wholeSecond
  let expiresAt ← issuedAt.shift duration
  let claims : Claims :=
    { id, subject := username, kind, issuedAt := issuedAt.seconds, expiresAt := expiresAt.seconds }
  return (String.ofList (key.encode claims), { id, username, issuedAt, expiresAt })

end Key

/-- What claims are worth at a time, to somebody who wants the kind. -/
def Claims.judge (c : Claims) (kind : TokenKind) (now : Timestamp) : Except TokenError Payload :=
  if c.expiresAt < 0 then .error .invalid
  else if c.expiresAt < now.seconds then .error .expired
  else if c.hasAudience then .error .invalid
  else if c.kind ≠ kind then .error .invalid
  else
    match Timestamp.ofSeconds? c.issuedAt, Timestamp.ofSeconds? c.expiresAt with
    | some issuedAt, some expiresAt =>
      .ok { id := c.id, username := c.subject, issuedAt, expiresAt }
    | _, _ => .error .invalid

def Key.verify (key : Key) (token : String) (kind : TokenKind) (now : Timestamp) :
    Except TokenError Payload :=
  match key.decode? token.toList with
  | some c => c.judge kind now
  | none => .error .invalid

/-- The hash under which a refresh token is kept. -/
def fingerprint (token : String) : String := String.ofList (Hex.encode (Sha256.hash (utf8 token)))

end Giro
