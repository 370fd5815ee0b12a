import Giro.Decimal.Shortest
import Giro.Json.Outline
import Giro.Text.Quoted

/-!
# Decoding records

A record has named fields that are texts or 64-bit integers. It is written as an object, whose
unknown members are passed over, or as a list of its fields in order. Fields are judged in the order
of the document: whatever is wrong first, in form or in meaning, is the error.
-/

namespace Giro.Json

open Text

inductive FieldType where
  | text
  | integer

def FieldType.describe : FieldType → String
  | .text => "a string"
  | .integer => "i64"

inductive FieldValue where
  | text (s : String)
  | integer (n : Int)

structure Schema where
  name : String
  fields : List (String × FieldType)

/-- What was found instead of the wanted type. -/
inductive Found where
  | null
  | bool (b : Bool)
  | integer (n : Int)
  | float (x : Float)
  | text (s : String)
  | sequence
  | map

def Found.describe : Found → String
  | .null => "null"
  | .bool true => "boolean `true`"
  | .bool false => "boolean `false`"
  | .integer n => s!"integer `{n}`"
  | .float x => "floating point `" ++ Decimal.text x ++ "`"
  | .text s => "string " ++ quoted s
  | .sequence => "sequence"
  | .map => "map"

/-- A document that is well formed so far and does not mean what is wanted. -/
inductive MeaningError where
  | wrongType (found : Found) (wanted : String)
  | integerRange (n : Int)
  | missing (field : String)
  | duplicate (field : String)
  | length (n : Nat) (schema : String) (wanted : Nat)

def MeaningError.message : MeaningError → String
  | .wrongType found wanted => "invalid type: " ++ found.describe ++ ", expected " ++ wanted
  | .integerRange n => s!"invalid value: integer `{n}`, expected i64"
  | .missing field => "missing field `" ++ field ++ "`"
  | .duplicate field => "duplicate field `" ++ field ++ "`"
  | .length n schema wanted =>
    s!"invalid length {n}, expected struct " ++ schema ++ s!" with {wanted} " ++
      if wanted = 1 then "element" else "elements"

/-- Where in the document. -/
inductive Place where
  | document
  | member (key : String)
  | item (index : Nat)

def Place.describe : Place → String
  | .document => ""
  | .member key => key ++ ": "
  | .item index => s!"[{index}]: "

inductive Fault where
  | syntaxError (why : SyntaxError)
  | meaning (why : MeaningError)

structure DecodeError where
  place : Place
  fault : Fault

def DecodeError.message (e : DecodeError) : String :=
  e.place.describe ++
    match e.fault with
    | .syntaxError why => why.message
    | .meaning why => why.message

namespace Value

def found (v : Value) : Except SyntaxError Found :=
  match v with
  | .null => .ok .null
  | .bool b => .ok (.bool b)
  | .number n => n.value.map fun
    | .natural k => .integer k
    | .negative k => .integer k
    | .float x => .float x
  | .text s => s.map .text
  | .list _ => .ok .sequence
  | .object _ => .ok .map
  | .broken why => .error why

def refuse {α : Type} (v : Value) (wanted : String) : Except Fault α :=
  match v.found with
  | .error why => .error (.syntaxError why)
  | .ok found => .error (.meaning (.wrongType found wanted))

def decode (v : Value) : FieldType → Except Fault FieldValue
  | .text =>
    match v with
    | .text (.ok s) => .ok (.text s)
    | v => v.refuse FieldType.text.describe
  | .integer =>
    match v with
    | .number n =>
      match n.value with
      | .ok (.natural k) =>
        if k ≤ 9223372036854775807 then .ok (.integer k) else .error (.meaning (.integerRange k))
      | .ok (.negative k) => .ok (.integer k)
      | _ => v.refuse FieldType.integer.describe
    | v => v.refuse FieldType.integer.describe

end Value

namespace Schema

variable (schema : Schema)

/-- The fields found so far, by name. -/
abbrev Partial := List (String × FieldValue)

/-- Takes in one member. -/
def member (found : Partial) (m : Member) : Except DecodeError Partial :=
  let inMember (fault : Fault) : DecodeError := ⟨.member m.key, fault⟩
  match schema.fields.find? fun f => f.1 == m.key with
  | none =>
    match m.slot with
    | .error why => .error ⟨.document, .syntaxError why⟩
    | .ok ⟨_, some why⟩ => .error (inMember (.syntaxError why))
    | .ok ⟨_, none⟩ => .ok found
  | some (field, type) =>
    if found.any fun f => f.1 == field then .error ⟨.document, .meaning (.duplicate field)⟩
    else
      match m.slot with
      | .error why => .error ⟨.document, .syntaxError why⟩
      | .ok slot =>
        match slot.value.decode type with
        | .error fault => .error (inMember fault)
        | .ok value => .ok (found ++ [(field, value)])

/-- The values of all fields in order. -/
def complete (found : Partial) : Except DecodeError (List FieldValue) :=
  schema.fields.mapM fun (field, _) =>
    match found.find? fun f => f.1 == field with
    | some (_, value) => .ok value
    | none => .error ⟨.document, .meaning (.missing field)⟩

/-- Takes the items of a list for the fields; `index` of them have been taken. -/
def items (index : Nat) : List (String × FieldType) → List Slot → Ending →
    Except DecodeError (List FieldValue × List UInt8)
  | [], [], .closed rest => .ok ([], rest)
  | [], [], .stopped why => .error ⟨.document, .syntaxError why⟩
  | [], [], .unfinished _ forEnd => .error ⟨.document, .syntaxError forEnd⟩
  | [], _, _ => .error ⟨.document, .syntaxError .trailingCharacters⟩
  | _ :: _, [], .closed _ =>
    .error ⟨.document, .meaning (.length index schema.name schema.fields.length)⟩
  | _ :: _, [], .stopped why => .error ⟨.document, .syntaxError why⟩
  | _ :: _, [], .unfinished forItem _ => .error ⟨.document, .syntaxError forItem⟩
  | _ :: _, [], .insideSlot => .error ⟨.document, .syntaxError .endInList⟩
  | (_, type) :: fields, slot :: slots, ending =>
    match slot.value.decode type with
    | .error fault => .error ⟨.item index, fault⟩
    | .ok value =>
      (items (index + 1) fields slots ending).map fun (values, rest) => (value :: values, rest)

def decodeOutline : Outline → Except DecodeError (List FieldValue × List UInt8)
  | .scalar v =>
    match v.refuse ("struct " ++ schema.name) with
    | .error fault => .error ⟨.document, fault⟩
    | .ok values => .ok values
  | .list slots ending => schema.items 0 schema.fields slots ending
  | .object members ending => do
    let found ← members.foldlM schema.member []
    match ending with
    | .closed rest => return (← schema.complete found, rest)
    | .stopped why | .unfinished _ why => .error ⟨.document, .syntaxError why⟩
    | .insideSlot => .error ⟨.document, .syntaxError .endInObject⟩

/-- The fields of a document in the order of the schema. Nothing but blanks may follow it. -/
def decode (input : List UInt8) : Except DecodeError (List FieldValue) := do
  let (values, rest) ← schema.decodeOutline (.read input)
  if (skipBlanks rest).isEmpty then return values
  else .error ⟨.document, .syntaxError .trailingCharacters⟩

end Schema
end Giro.Json
