import Giro.Text.Fields
import Giro.Text.Utf8

/-!
# Requests

A request as it arrives: method, target, headers in their order, and body. Header names are compared
without regard to case, and of several headers with one name the first counts. A header can be read
as text only if its bytes are visible ASCII, blanks and tabs.
-/

namespace Giro.Http

open Text

structure Request where
  method : String
  path : String
  query : String
  headers : List (String × List UInt8)
  body : List UInt8

/-- What follows scheme and host, if they are there. -/
def afterHost? (target : List Char) : Option (List Char) :=
  if target.head? = some '/' then some target
  else
    match cut? ':' target with
    | some (_, '/' :: '/' :: rest) => some (rest.dropWhile fun c => c ≠ '/' && c ≠ '?')
    | _ => none

/-- Path and query of a target, which may start with a scheme and a host. A fragment is dropped; a
target that is neither a path nor has a scheme gives the empty path. -/
def splitTarget (target : String) : String × String :=
  let cs := target.toList
  let cs := ((cut? '#' cs).map Prod.fst).getD cs
  match afterHost? cs with
  | none => ("", "")
  | some cs =>
    let (path, query) := (cut? '?' cs).getD (cs, [])
    (if path.isEmpty then "/" else String.ofList path, String.ofList query)

def lowerAscii (s : String) : String := String.ofList (s.toList.map Char.toLower)

def isVisible (b : UInt8) : Bool := (32 ≤ b && b < 127) || b == 9

namespace Request

variable (r : Request)

/-- The value of the first header with this name, which is given in lower case. -/
def header? (name : String) : Option (List UInt8) :=
  (r.headers.find? fun h => lowerAscii h.1 == name).map Prod.snd

def headerText? (name : String) : Option String :=
  (r.header? name).bind fun value =>
    if value.all isVisible then some (String.ofList (value.map fun b => Char.ofNat b.toNat))
    else none

end Request
end Giro.Http
