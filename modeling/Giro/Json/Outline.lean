import Giro.Json.Number

/-!
# The outline of a document

Only the outermost layer of a document is taken apart: a list into its items, an object into its
members. An inner list or object stays as the bytes behind its opening bracket. Reading goes as far
as the document is well formed and keeps what it has found, because what a field means is judged
before what comes after it.
-/

namespace Giro.Json

open Text

/-- A value, not taken apart further. Its text or number may turn out to be bad when somebody wants
it. -/
inductive Value where
  | null
  | bool (b : Bool)
  | number (n : Numeral)
  | text (s : Except SyntaxError String)
  | list (inside : List UInt8)
  | object (inside : List UInt8)
  | broken (why : SyntaxError)

namespace Value

/-- The word that starts with this letter. -/
def ofWord (word : List UInt8) (v : Value) (rest : List UInt8) : Value :=
  match readWord word rest with
  | .ok _ => v
  | .error e => .broken e.why

def ofNumeral (input : List UInt8) : Value :=
  match readNumeral input with
  | .ok (n, _) => .number n
  | .error e => .broken e.why

/-- The value at the front, after blanks. -/
def read (input : List UInt8) : Value :=
  match skipBlanks input with
  | [] => .broken .endInValue
  | b :: rest =>
    if b = 34 then .text (((readText rest).map Prod.fst).mapError Stop.why)
    else if b = 91 then .list rest
    else if b = 123 then .object rest
    else if b = 110 then ofWord (utf8 "ull") .null rest
    else if b = 116 then ofWord (utf8 "rue") (.bool true) rest
    else if b = 102 then ofWord (utf8 "alse") (.bool false) rest
    else if b = 45 ∨ isDigitByte b then ofNumeral (b :: rest)
    else .broken .expectedValue

def isNull : Value → Bool
  | .null => true
  | _ => false

def text? : Value → Option String
  | .text (.ok s) => some s
  | _ => none

def integer? : Value → Option Int
  | .number n => n.integer?
  | _ => none

end Value

/-- What starts with a value, and why passing over the value stopped inside it if it did. -/
structure Slot where
  input : List UInt8
  stopped : Option SyntaxError

def Slot.value (s : Slot) : Value := .read s.input

/-- What was found where the members of an object or the items of a list end. -/
inductive Ending where
  | closed (rest : List UInt8)
  | stopped (why : SyntaxError)
  /-- The list itself goes wrong here. One error is for whoever wants another item, the other for
  whoever wants the end. -/
  | unfinished (forItem forEnd : SyntaxError)
  /-- The last slot says why. -/
  | insideSlot

structure Member where
  key : String
  /-- The value, unless the colon is missing. -/
  slot : Except SyntaxError Slot

/-- What follows the key of a member. -/
def readColon (input : List UInt8) : Except SyntaxError (List UInt8) :=
  match skipBlanks input with
  | [] => .error .endInObject
  | 58 :: rest => .ok rest
  | _ => .error .expectedColon

/-- The key at the front. -/
def readKey (input : List UInt8) : Except SyntaxError (String × List UInt8) :=
  match input with
  | [] => .error .endInValue
  | 34 :: rest => (readText rest).mapError Stop.why
  | 125 :: _ => .error .trailingComma
  | _ => .error .keyNotText

/-- Where the key of a member starts, behind a comma unless it is the first. -/
def memberStart (isFirst : Bool) (b : UInt8) (rest : List UInt8) :
    Except SyntaxError (List UInt8) :=
  if isFirst then .ok (b :: rest)
  else if b = 44 then .ok (skipBlanks rest)
  else .error .expectedCommaOrBrace

/-- Where an item starts, behind a comma unless it is the first. -/
def itemStart (isFirst : Bool) (b : UInt8) (rest : List UInt8) : Except Ending (List UInt8) :=
  if isFirst then .ok (b :: rest)
  else if b = 44 then
    match skipBlanks rest with
    | [] => .error (.unfinished .endInValue .trailingCharacters)
    | 93 :: _ => .error (.unfinished .trailingComma .trailingComma)
    | more => .ok more
  else .error (.unfinished .expectedCommaOrBracket .trailingCharacters)

/-- Reads the members that follow an opening brace or a member. Each takes a byte, so the length
bounds their number; what is left of that bound also bounds the length of the rest. -/
def readMembers : Nat → Bool → List UInt8 → List Member × Ending
  | 0, _, _ => ([], .stopped .endInObject)
  | fuel + 1, isFirst, input =>
    match skipBlanks input with
    | [] => ([], .stopped .endInObject)
    | 125 :: rest => ([], .closed rest)
    | b :: rest =>
      match memberStart isFirst b rest with
      | .error e => ([], .stopped e)
      | .ok keyAt =>
        match readKey keyAt with
        | .error e => ([], .stopped e)
        | .ok (key, rest) =>
          match readColon rest with
          | .error e => ([⟨key, .error e⟩], .insideSlot)
          | .ok rest =>
            match skipValue fuel rest with
            | .error e => ([⟨key, .ok ⟨rest, some e⟩⟩], .insideSlot)
            | .ok more =>
              let (members, ending) := readMembers fuel false more
              (⟨key, .ok ⟨rest, none⟩⟩ :: members, ending)

/-- Reads the items that follow an opening bracket or an item. -/
def readItems : Nat → Bool → List UInt8 → List Slot × Ending
  | 0, _, _ => ([], .stopped .endInList)
  | fuel + 1, isFirst, input =>
    match skipBlanks input with
    | [] => ([], .stopped .endInList)
    | 93 :: rest => ([], .closed rest)
    | b :: rest =>
      match itemStart isFirst b rest with
      | .error ending => ([], ending)
      | .ok itemAt =>
        match skipValue fuel itemAt with
        | .error e => ([⟨itemAt, some e⟩], .insideSlot)
        | .ok more =>
          let (items, ending) := readItems fuel false more
          (⟨itemAt, none⟩ :: items, ending)

inductive Outline where
  | scalar (v : Value)
  | list (items : List Slot) (ending : Ending)
  | object (members : List Member) (ending : Ending)

def Outline.read (input : List UInt8) : Outline :=
  match Value.read input with
  | .list inside =>
    let (items, ending) := readItems (inside.length + 1) true inside
    .list items ending
  | .object inside =>
    let (members, ending) := readMembers (inside.length + 1) true inside
    .object members ending
  | v => .scalar v

end Giro.Json
