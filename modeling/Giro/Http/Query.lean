import Giro.Codec.Hex
import Giro.Http.Request
import Giro.Store.Row
import Giro.Text.Integer

/-!
# Percent encoding and queries

A percent sign and two digits stand for a byte; any other percent sign stands for itself. A query is
pairs between ampersands, where a plus sign stands for a blank. Names that are not asked for are
passed over, and the first fault in the order of the query is the one reported.
-/

namespace Giro.Http

open Codec Text

def hexByte? (hi lo : UInt8) : Option UInt8 :=
  match Hex.value? (Char.ofNat hi.toNat), Hex.value? (Char.ofNat lo.toNat) with
  | some hi, some lo => some (UInt8.ofNat (hi * 16 + lo))
  | _, _ => none

def percentDecode : List UInt8 → List UInt8
  | 37 :: hi :: lo :: rest =>
    match hexByte? hi lo with
    | some b => b :: percentDecode rest
    | none => 37 :: percentDecode (hi :: lo :: rest)
  | b :: rest => b :: percentDecode rest
  | [] => []

/-- The text of a part of a query. Where it is no UTF-8, bytes beyond ASCII become replacement
characters. -/
def decodePart (cs : List Char) : String :=
  let bytes := percentDecode ((utf8 (String.ofList cs)).map fun b => if b = 43 then 32 else b)
  (ofUtf8? bytes).getD
    (String.ofList (bytes.map fun b => if b < 128 then Char.ofNat b.toNat else Char.ofNat 0xfffd))

def pairs (query : String) : List (String × String) :=
  ((fields '&' query.toList).filter fun part => !part.isEmpty).map fun part =>
    match cut? '=' part with
    | some (name, value) => (decodePart name, decodePart value)
    | none => (decodePart part, "")

inductive QueryError where
  | missing (field : String)
  | duplicate (field : String)
  | unreadable (field : String) (why : Integer.ReadError)

def QueryError.message : QueryError → String
  | .missing field => "missing field `" ++ field ++ "`"
  | .duplicate field => "duplicate field `" ++ field ++ "`"
  | .unreadable field why => field ++ ": " ++ why.message

namespace PageQuery

def readNumber (field value : String) : Except QueryError Int :=
  (Integer.Format.signed64.read value.toList).mapError (.unreadable field)

structure Partial where
  id : Option Int := none
  size : Option Int := none

def take (found : Partial) : String × String → Except QueryError Partial
  | ("page_id", value) =>
    if found.id.isSome then .error (.duplicate "page_id")
    else (readNumber "page_id" value).map fun n => { found with id := some n }
  | ("page_size", value) =>
    if found.size.isSome then .error (.duplicate "page_size")
    else (readNumber "page_size" value).map fun n => { found with size := some n }
  | _ => .ok found

def read (query : String) : Except QueryError Page := do
  let found ← (pairs query).foldlM take {}
  match found.id, found.size with
  | none, _ => .error (.missing "page_id")
  | some _, none => .error (.missing "page_size")
  | some id, some size => .ok { id, size }

end PageQuery
end Giro.Http
