import Giro.Text.Integer
import Giro.Time

/-!
# Configuration

Settings come from environment variables whose lower-case names are the names of fields. Other
variables are passed over; two variables for one field are refused, and so is an integer that does
not fit its field. The first such variable is reported. Fields that are absent take their defaults,
but for the two without one.
-/

namespace Giro

open Text

structure Config where
  databaseUrl : String
  tokenKey : String
  serverPort : UInt16 := 3000
  accessTokenMinutes : Int64 := 15
  refreshTokenHours : Int64 := 24
  requestTimeoutSeconds : UInt64 := 30
  maxConnections : UInt32 := 10
  deriving DecidableEq

namespace Config

inductive Field where
  | databaseUrl
  | tokenKey
  | serverPort
  | accessTokenMinutes
  | refreshTokenHours
  | requestTimeoutSeconds
  | maxConnections
  deriving DecidableEq

namespace Field

def all : List Field :=
  [.databaseUrl, .tokenKey, .serverPort, .accessTokenMinutes, .refreshTokenHours,
    .requestTimeoutSeconds, .maxConnections]

def name : Field → String
  | .databaseUrl => "database_url"
  | .tokenKey => "token_symmetric_key"
  | .serverPort => "server_port"
  | .accessTokenMinutes => "access_token_minutes"
  | .refreshTokenHours => "refresh_token_hours"
  | .requestTimeoutSeconds => "request_timeout_secs"
  | .maxConnections => "db_max_connections"

/-- The integers that the field holds, unless it is a text. -/
def format? : Field → Option Integer.Format
  | .databaseUrl | .tokenKey => none
  | .serverPort => some .unsigned16
  | .accessTokenMinutes | .refreshTokenHours => some .signed64
  | .requestTimeoutSeconds => some .unsigned64
  | .maxConnections => some .unsigned32

end Field

/-- The lower case of a letter if that is a letter of the field names; the Kelvin sign is a capital
k. -/
def lowerChar (c : Char) : Char :=
  if 'A' ≤ c ∧ c ≤ 'Z' then Char.ofNat (c.toNat + 32)
  else if c.toNat = 0x212a then 'k'
  else c

/-- The field that a variable sets. -/
def fieldOf? (source : String) : Option Field :=
  Field.all.find? fun f => f.name.toList == source.toList.map lowerChar

inductive Setting where
  | text (s : String)
  | integer (n : Int)

inductive ReadError where
  | missing (field : Field)
  | duplicate (field : Field)
  | unreadable (why : Integer.ReadError) (value source : String)

def ReadError.message : ReadError → String
  | .missing field => "missing value for field " ++ field.name
  | .duplicate field => "duplicate field `" ++ field.name ++ "`"
  | .unreadable why value source =>
    why.message ++ " while parsing value '" ++ value ++ "' provided by " ++ source

/-- An environment in which later assignments to a name replace the value of earlier ones. -/
def assign (environment : List (String × String)) (name value : String) : List (String × String) :=
  if environment.any fun v => v.1 == name then
    environment.map fun v => if v.1 = name then (name, value) else v
  else environment ++ [(name, value)]

def environment (assignments : List (String × String)) : List (String × String) :=
  assignments.foldl (fun env (name, value) => assign env name value) []

abbrev Settings := List (Field × Setting)

namespace Settings

variable (s : Settings)

def find? (field : Field) : Option Setting := (List.find? (fun p => p.1 == field) s).map Prod.snd

def text? (field : Field) : Option String :=
  match s.find? field with
  | some (.text t) => some t
  | _ => none

def integer? (field : Field) : Option Int :=
  match s.find? field with
  | some (.integer n) => some n
  | _ => none

end Settings

def readSetting (field : Field) (source value : String) : Except ReadError Setting :=
  match field.format? with
  | none => .ok (.text value)
  | some format =>
    match format.read value.toList with
    | .ok n => .ok (.integer n)
    | .error why => .error (.unreadable why value source)

/-- Takes in one variable. -/
def take (s : Settings) (v : String × String) : Except ReadError Settings :=
  match fieldOf? v.1 with
  | none => .ok s
  | some field =>
    if (s.find? field).isSome then .error (.duplicate field)
    else (readSetting field v.1 v.2).map fun setting => s ++ [(field, setting)]

/-- Fills in the defaults. -/
def complete (s : Settings) : Except ReadError Config :=
  match s.text? .databaseUrl, s.text? .tokenKey with
  | none, _ => .error (.missing .databaseUrl)
  | some _, none => .error (.missing .tokenKey)
  | some databaseUrl, some tokenKey =>
    let defaults : Config := { databaseUrl, tokenKey }
    .ok {
      databaseUrl
      tokenKey
      serverPort :=
        ((s.integer? .serverPort).map fun n => UInt16.ofNat n.toNat).getD defaults.serverPort
      accessTokenMinutes :=
        ((s.integer? .accessTokenMinutes).map Int64.ofInt).getD defaults.accessTokenMinutes
      refreshTokenHours :=
        ((s.integer? .refreshTokenHours).map Int64.ofInt).getD defaults.refreshTokenHours
      requestTimeoutSeconds :=
        ((s.integer? .requestTimeoutSeconds).map fun n => UInt64.ofNat n.toNat).getD
          defaults.requestTimeoutSeconds
      maxConnections :=
        ((s.integer? .maxConnections).map fun n => UInt32.ofNat n.toNat).getD
          defaults.maxConnections }

def read (environment : List (String × String)) : Except ReadError Config :=
  (environment.foldlM take []).bind complete

def accessDuration (c : Config) : Except TimeOverflow Span :=
  Span.ofMinutes c.accessTokenMinutes.toInt

def refreshDuration (c : Config) : Except TimeOverflow Span :=
  Span.ofHours c.refreshTokenHours.toInt

end Config
end Giro
