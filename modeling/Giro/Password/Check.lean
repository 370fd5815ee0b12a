import Giro.Overflow
import Giro.Password.Argon2
import Giro.Password.Record
import Giro.Text.Utf8

/-!
# Hashing and checking passwords

A new hash uses the `id` variant at the standard cost with a digest of 32 bytes. A stored record
names its own variant, version, cost and salt; the password is right when the record gives costs
that can be computed and the digest comes out equal. The cost of a record that has a salt and a
digest may overflow, which is noticed before variant, version and salt are looked at.
-/

namespace Giro.Password

open Codec Text

inductive CheckError where
  | unreadable (why : RecordError)
  | incorrect

namespace Argon2

def Variant.name : Variant → List Char
  | .d => "argon2d".toList
  | .i => "argon2i".toList
  | .id => "argon2id".toList

def Variant.ofName? (cs : List Char) : Option Variant :=
  [Variant.d, .i, .id].find? fun v => v.name == cs

def Version.ofCode? (n : Nat) : Option Version :=
  [Version.first, .second].find? fun v => v.code == n

end Argon2

namespace Record

/-- What the parameters of a record set. -/
structure Settings where
  cost : Argon2.Cost := .standard
  data : List UInt8 := []

def decodeUpTo (limit : Nat) (cs : List Char) : Option (List UInt8) :=
  (Base64.decode .standard cs).bind fun bytes => if bytes.length ≤ limit then some bytes else none

/-- Reads one parameter. The name of a key is checked and has no effect. -/
def setParameter (s : Settings) (p : List Char × List Char) : Option Settings :=
  let number := (readDecimal p.2).toOption
  match String.ofList p.1 with
  | "m" => number.map fun n => { s with cost.memory := n }
  | "t" => number.map fun n => { s with cost.passes := n }
  | "p" => number.map fun n => { s with cost.lanes := n }
  | "keyid" => (decodeUpTo 8 p.2).map fun _ => s
  | "data" => (decodeUpTo 32 p.2).map fun bytes => { s with data := bytes }
  | _ => none

/-- What the parameters state, the later of two equal names winning. -/
def stated? (r : Record) : Option Settings := r.parameters.foldlM setParameter {}

/-- What the parameters state if it can be computed. -/
def settings? (r : Record) : Option Settings :=
  r.stated?.bind fun s => if s.cost.Valid then some s else none

/-- Whether a check stops at the cost. -/
def Overflows (r : Record) : Prop :=
  r.salt.isSome ∧ r.digest.isSome ∧ r.stated?.any fun s => s.cost.Overflows

instance (r : Record) : Decidable r.Overflows := inferInstanceAs (Decidable (_ ∧ _))

def saltBytes? (r : Record) : Option (List UInt8) :=
  (r.salt.bind (Base64.decode .standard)).bind fun bytes =>
    if 8 ≤ bytes.length then some bytes else none

/-- The digest that the password has under the record's own settings, in the length of the stored
digest. -/
def digestOf? (r : Record) (password : String) : Option (List UInt8) := do
  let variant ← Argon2.Variant.ofName? r.algorithm
  let version ← (r.version.map Argon2.Version.ofCode?).getD (some .second)
  let settings ← r.settings?
  let salt ← r.saltBytes?
  let stored ← r.digest
  some <|
    Argon2.hash variant version settings.cost stored.length ⟨utf8 password, salt, settings.data⟩

def Verifies (r : Record) (password : String) : Prop :=
  r.digest.isSome ∧ r.digestOf? password = r.digest

instance (r : Record) (password : String) : Decidable (r.Verifies password) :=
  inferInstanceAs (Decidable (_ ∧ _))

/-- The record of a new password with the given salt. -/
def new (password : String) (salt : List UInt8) : Record where
  algorithm := Argon2.Variant.id.name
  version := some Argon2.Version.second.code
  parameters := [
    (['m'], Integer.digits Argon2.Cost.standard.memory),
    (['t'], Integer.digits Argon2.Cost.standard.passes),
    (['p'], Integer.digits Argon2.Cost.standard.lanes)]
  salt := some (Base64.encode .standard salt)
  digest := some (Argon2.hash .id .second .standard 32 { password := utf8 password, salt })

end Record

def hash (password : String) (salt : List UInt8) : String :=
  String.ofList (Record.new password salt).write

def check (password stored : String) : Except Overflow (Except CheckError Unit) :=
  match Record.read stored.toList with
  | .error why => .ok (.error (.unreadable why))
  | .ok record =>
    if record.Overflows then .error .lanes
    else if record.Verifies password then .ok (.ok ())
    else .ok (.error .incorrect)

end Giro.Password
