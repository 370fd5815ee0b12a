import Giro.Codec.Base64
import Giro.Text.Fields
import Giro.Text.Integer

/-!
# The text form of a password hash

`$name$v=version$key=value,…$salt$digest`, where everything after the name may be absent. Salt and
digest are in the standard Base64 alphabet without padding. A record keeps the salt as text, because
a salt that is no Base64 is still a record; it only fails to verify.
-/

namespace Giro.Password

open Codec Text

structure Record where
  algorithm : List Char
  version : Option Nat
  parameters : List (List Char × List Char)
  salt : Option (List Char)
  digest : Option (List UInt8)

/-- What is wrong with a value. -/
inductive BadValue where
  | character (c : Char)
  | format
  | malformed
  | tooLong
  | tooShort

def BadValue.message : BadValue → String
  | .character c => s!"contains invalid character: '{c}'"
  | .format => "value format is invalid"
  | .malformed => "value malformed"
  | .tooLong => "value to long"
  | .tooShort => "value to short"

inductive RecordError where
  | missingField
  | trailing
  | name
  | value (why : BadValue)
  | tooManyParameters
  | salt (why : BadValue)
  | base64
  | base64Length
  | digestTooShort

def RecordError.message : RecordError → String
  | .missingField => "password hash string missing field"
  | .trailing => "password hash string contains trailing characters"
  | .name => "invalid parameter name"
  | .value why => s!"invalid parameter value: {why.message}"
  | .tooManyParameters => "maximum number of parameters reached"
  | .salt why => s!"salt invalid: {why.message}"
  | .base64 => "invalid Base64 encoding"
  | .base64Length => "invalid Base64 length"
  | .digestTooShort => "output size too short, expected at least 10 bytes"

namespace Record

def isNameChar (c : Char) : Bool := ('a' ≤ c && c ≤ 'z') || ('0' ≤ c && c ≤ '9') || c == '-'

def isValueChar (c : Char) : Bool :=
  ('a' ≤ c && c ≤ 'z') || ('A' ≤ c && c ≤ 'Z') || ('0' ≤ c && c ≤ '9') ||
    ['/', '+', '.', '-'].contains c

def byteLength (cs : List Char) : Nat := (String.ofList cs).utf8ByteSize

/-- A name has 1 to 32 characters. -/
def readName (cs : List Char) : Except RecordError (List Char) :=
  if cs.isEmpty || byteLength cs > 32 || !cs.all isNameChar then .error .name else .ok cs

def checkValue (cs : List Char) : Except BadValue (List Char) :=
  if byteLength cs > 64 then .error .tooLong
  else
    match cs.find? fun c => !isValueChar c with
    | some c => .error (.character c)
    | none => .ok cs

/-- A decimal number of 32 bits without superfluous zeros. -/
def readDecimal (cs : List Char) : Except BadValue Nat :=
  if cs.isEmpty then .error .malformed
  else
    match cs.find? fun c => (Integer.digit? c).isNone with
    | some c => .error (.character c)
    | none =>
      if cs.head? = some '0' ∧ cs.length > 1 then .error .format
      else
        (Integer.readDigits 4294967295 .tooLarge cs 0).mapError fun _ => .format

def readParameter (cs : List Char) : Except RecordError (List Char × List Char) :=
  match fields '=' cs with
  | [] => .error .name
  | [name] => do
    let _ ← readName name
    .error (.value .malformed)
  | name :: value :: rest => do
    let name ← readName name
    let value ← (checkValue value).mapError .value
    if rest.isEmpty then .ok (name, value) else .error (.value .malformed)

def readParameters (cs : List Char) : Except RecordError (List (List Char × List Char)) :=
  if byteLength cs > 127 then .error .tooManyParameters else (fields ',' cs).mapM readParameter

/-- A salt has 4 to 64 characters. -/
def readSalt (cs : List Char) : Except RecordError (List Char) :=
  if byteLength cs < 4 then .error (.salt .tooShort)
  else if byteLength cs > 64 then .error (.salt .tooLong)
  else (checkValue cs).mapError .salt

/-- A digest has 10 to 64 bytes. -/
def readDigest (cs : List Char) : Except RecordError (List UInt8) :=
  if 3 * byteLength cs / 4 > 64 then .error .base64Length
  else
    match Base64.decode .standard cs with
    | none => .error .base64
    | some bytes => if bytes.length < 10 then .error .digestTooShort else .ok bytes

/-- Takes the first of the remaining fields if it has the wanted shape. -/
def takeIf (wanted : List Char → Bool) : List (List Char) → Option (List Char) × List (List Char)
  | [] => (none, [])
  | field :: rest => if wanted field then (some field, rest) else (none, field :: rest)

def isVersionField (cs : List Char) : Bool := cs.take 2 == ['v', '='] && !cs.contains ','

def readAfterName (algorithm : List Char) (rest : List (List Char)) :
    Except RecordError Record := do
  let (versionField, rest) := takeIf isVersionField rest
  let version ← versionField.mapM fun field =>
    ((checkValue (field.drop 2)).bind readDecimal).mapError .value
  let (parameterField, rest) := takeIf (·.contains '=') rest
  let parameters ← (parameterField.map readParameters).getD (.ok [])
  let salt ← rest[0]?.mapM readSalt
  let digest ← rest[1]?.mapM readDigest
  if rest.length > 2 then .error .trailing else .ok ⟨algorithm, version, parameters, salt, digest⟩

def read (cs : List Char) : Except RecordError Record :=
  match cs with
  | '$' :: rest =>
    match fields '$' rest with
    | [] => .error .missingField
    | name :: rest => do readAfterName (← readName name) rest
  | _ => .error .missingField

def writeParameter (p : List Char × List Char) : List Char := p.1 ++ '=' :: p.2

def write (r : Record) : List Char :=
  '$' :: (r.algorithm ++
    (r.version.map fun v => '$' :: 'v' :: '=' :: Integer.digits v).getD [] ++
    (if r.parameters.isEmpty then []
      else '$' :: joinFields ',' (r.parameters.map writeParameter)) ++
    (r.salt.map fun s => '$' :: s).getD [] ++
    (r.digest.map fun d => '$' :: Base64.encode .standard d).getD [])

end Record
end Giro.Password
