import Giro.Program
import Giro.Refusal
import Giro.Service
import Giro.Text.Blank
import Giro.Text.Fields

/-!
# Users and their logins

A user registers once and logs in with the password. A login makes a session that is known by the id
of its refresh token and keeps the fingerprint of that token; with the same token, and no other, the
user gets new access tokens until the session expires. Identifiers, salts and the time are given by
the caller.
-/

namespace Giro

open Attempt Text

/-- A name is letters and digits of ASCII. -/
def isUsername (s : String) : Bool := !s.toList.isEmpty && s.toList.all Char.isAlphanum

def isPassword (s : String) : Bool := 6 ≤ s.length

/-- Something before the first at sign, and a dot behind it. -/
def isEmail (s : String) : Bool :=
  match cut? '@' s.toList with
  | some (name, domain) => !name.isEmpty && domain.contains '.'
  | none => false

structure Credentials where
  username : String
  password : String

def Credentials.check (c : Credentials) : Except Invalid Unit :=
  if !isUsername c.username then .error .username
  else if !isPassword c.password then .error .password
  else .ok ()

structure Registration where
  username : String
  password : String
  fullName : String
  email : String

def Registration.check (r : Registration) : Except Invalid Unit := do
  Credentials.check { username := r.username, password := r.password }
  if r.fullName.toList.all isBlank then throw .fullName
  if !isEmail r.email then throw .email

/-- What is recorded about the client of a login. -/
structure Client where
  userAgent : String := ""
  address : String := ""

structure Login where
  sessionId : Uuid
  accessToken : String
  accessExpiresAt : Timestamp
  refreshToken : String
  refreshExpiresAt : Timestamp
  user : User

structure Renewal where
  accessToken : String
  expiresAt : Timestamp

/-- Random values that a request may use up. -/
structure Fresh where
  salt : List UInt8
  accessId : Uuid
  refreshId : Uuid

def register (r : Registration) (salt : List UInt8) : Attempt Refusal User := do
  demand (r.check.mapError .invalid)
  mapError .store <| call <| .createUser {
    username := r.username
    hashedPassword := Password.hash r.password salt
    fullName := r.fullName
    email := r.email }

def Service.login (service : Service) (client : Client) (c : Credentials) (fresh : Fresh)
    (now : Timestamp) : Attempt Refusal Login := do
  demand (c.check.mapError .invalid)
  let user ← mapError (Refusal.ofLookup (.user c.username)) (call (.getUser c.username))
  let verdict ← compute (Password.check c.password user.hashedPassword)
  demand (verdict.mapError .ofPassword)
  let (accessToken, access) ←
    ofTime (service.key.issue fresh.accessId user.username .access service.accessDuration now)
  let (refreshToken, refresh) ←
    ofTime (service.key.issue fresh.refreshId user.username .refresh service.refreshDuration now)
  let session ← mapError .store <| call <| .createSession {
    id := refresh.id
    username := user.username
    refreshToken := fingerprint refreshToken
    userAgent := client.userAgent
    clientIp := client.address
    isBlocked := false
    expiresAt := refresh.expiresAt }
  return {
    sessionId := session.id
    accessToken
    accessExpiresAt := access.expiresAt
    refreshToken
    refreshExpiresAt := refresh.expiresAt
    user }

/-- What a session says about a refresh token that is presented. -/
def Session.admits (session : Session) (payload : Payload) (token : String) (now : Timestamp) :
    Except Unauthorized Unit :=
  if session.isBlocked then .error .blockedSession
  else if session.username ≠ payload.username then .error .sessionUser
  else if session.refreshToken ≠ fingerprint token then .error .sessionToken
  else if session.expiresAt < now then .error .expiredSession
  else .ok ()

def Service.renew (service : Service) (token : String) (id : Uuid) (now : Timestamp) :
    Attempt Refusal Renewal := do
  let payload ← demand ((service.key.verify token .refresh now).mapError .ofToken)
  let session ← mapError (Refusal.ofLookup (.session payload.id)) (call (.getSession payload.id))
  demand ((session.admits payload token now).mapError .unauthorized)
  let (accessToken, access) ←
    ofTime (service.key.issue id payload.username .access service.accessDuration now)
  return { accessToken, expiresAt := access.expiresAt }

end Giro
