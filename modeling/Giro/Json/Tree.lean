import Giro.Json.Number

/-!
# Values taken apart completely

`Tree.read` takes a value apart to any layer, as far as there is room for open brackets. A list or
an object that cannot be read is left like one that can: the reader takes its closing bracket if it
stands in front of it. So a fault in the last place of a value leaves the reader where the value
ends, and a fault before something else does not.
-/

namespace Giro.Json

open Text

inductive Tree where
  | null
  | bool (b : Bool)
  | number (n : NumberValue)
  | text (s : String)
  | list (items : List Tree)
  | object (members : List (String × Tree))

/-- Takes the closing bracket. -/
def Bracket.close (bracket : Bracket) (input : List UInt8) : Except Stop (List UInt8) :=
  match skipBlanks input with
  | [] => .error ⟨bracket.endError, []⟩
  | b :: rest =>
    if b = bracket.closing then .ok rest
    else if b = 44 then
      match bracket with
      | .list => .error ⟨.trailingCharacters, skipBlanks rest⟩
      | .object => .error ⟨.trailingComma, b :: rest⟩
    else .error ⟨.trailingCharacters, b :: rest⟩

/-- Where a reader stands. -/
def standing {α : Type} : Except Stop (α × List UInt8) → List UInt8
  | .ok (_, rest) => rest
  | .error stop => stop.rest

/-- Leaves a list or an object after its content has been read or not. -/
def Bracket.leave {α : Type} (bracket : Bracket) :
    Except Stop (α × List UInt8) → Except Stop (α × List UInt8)
  | .ok (a, rest) => (bracket.close rest).map fun rest => (a, rest)
  | .error stop =>
    .error ⟨stop.why, standing ((bracket.close stop.rest).map fun rest => ((), rest))⟩

namespace Tree

/-- Reads a value that is neither a list nor an object. -/
def readScalar (b : UInt8) (rest : List UInt8) : Except Stop (Tree × List UInt8) :=
  if b = 34 then (readText rest).map fun (s, rest) => (.text s, rest)
  else if b = 110 then (readWord (utf8 "ull") rest).map fun rest => (.null, rest)
  else if b = 116 then (readWord (utf8 "rue") rest).map fun rest => (.bool true, rest)
  else if b = 102 then (readWord (utf8 "alse") rest).map fun rest => (.bool false, rest)
  else if b = 45 ∨ isDigitByte b then
    (readNumber (b :: rest)).map fun (n, rest) => (.number n, rest)
  else .error ⟨.expectedValue, b :: rest⟩

/-- Where the next item or key starts, behind a comma unless it is the first; none at the closing
bracket. -/
def nextStart (bracket : Bracket) (isFirst : Bool) (input : List UInt8) :
    Except Stop (Option (List UInt8)) :=
  match skipBlanks input with
  | [] => .error ⟨bracket.endError, []⟩
  | b :: rest =>
    if b = bracket.closing then .ok none
    else if isFirst then .ok (some (b :: rest))
    else if b = 44 then
      match skipBlanks rest with
      | [] => .error ⟨.endInValue, []⟩
      | c :: more =>
        if c = bracket.closing then .error ⟨.trailingComma, c :: more⟩ else .ok (some (c :: more))
    else .error ⟨bracket.separatorError, b :: rest⟩

/-- Takes a key and its colon. -/
def readKey : List UInt8 → Except Stop (String × List UInt8)
  | 34 :: rest =>
    match readText rest with
    | .error stop => .error stop
    | .ok (key, rest) =>
      match skipBlanks rest with
      | [] => .error ⟨.endInObject, []⟩
      | 58 :: rest => .ok (key, rest)
      | more => .error ⟨.expectedColon, more⟩
  | rest => .error ⟨.keyNotText, rest⟩

mutual

/-- Reads a value; `room` is how many brackets may be open at once. Every second step takes a byte,
so twice the length bounds the steps. -/
def readWithin : Nat → Nat → List UInt8 → Except Stop (Tree × List UInt8)
  | 0, _, input => .error ⟨.endInValue, input⟩
  | fuel + 1, room, input =>
    match skipBlanks input with
    | [] => .error ⟨.endInValue, []⟩
    | 91 :: rest =>
      if room = 0 then .error ⟨.tooDeep, 91 :: rest⟩
      else
        (Bracket.list.leave (readItemsWithin fuel (room - 1) true rest)).map
          fun (items, rest) => (.list items, rest)
    | 123 :: rest =>
      if room = 0 then .error ⟨.tooDeep, 123 :: rest⟩
      else
        (Bracket.object.leave (readMembersWithin fuel (room - 1) true rest)).map
          fun (members, rest) => (.object members, rest)
    | b :: rest => readScalar b rest

/-- Reads items up to the closing bracket. -/
def readItemsWithin : Nat → Nat → Bool → List UInt8 → Except Stop (List Tree × List UInt8)
  | 0, _, _, input => .error ⟨.endInList, input⟩
  | fuel + 1, room, isFirst, input =>
    match nextStart .list isFirst input with
    | .error stop => .error stop
    | .ok none => .ok ([], input)
    | .ok (some start) =>
      match readWithin fuel room start with
      | .error stop => .error stop
      | .ok (item, rest) =>
        (readItemsWithin fuel room false rest).map fun (items, rest) => (item :: items, rest)

/-- Reads members up to the closing bracket. -/
def readMembersWithin :
    Nat → Nat → Bool → List UInt8 → Except Stop (List (String × Tree) × List UInt8)
  | 0, _, _, input => .error ⟨.endInObject, input⟩
  | fuel + 1, room, isFirst, input =>
    match nextStart .object isFirst input with
    | .error stop => .error stop
    | .ok none => .ok ([], input)
    | .ok (some start) =>
      match readKey start with
      | .error stop => .error stop
      | .ok (key, rest) =>
        match readWithin fuel room rest with
        | .error stop => .error stop
        | .ok (value, rest) =>
          (readMembersWithin fuel room false rest).map
            fun (members, rest) => ((key, value) :: members, rest)

end

/-- How many brackets a value inside a document may open at once. -/
def room : Nat := 126

/-- Reads a value inside a document. -/
def read (input : List UInt8) : Except Stop (Tree × List UInt8) :=
  readWithin (2 * input.length + 2) room input

/-- Reads a value for somebody who has no use for lists and objects: they are left as soon as they
are entered. -/
def readFlat (input : List UInt8) : Except Stop (Option Tree × List UInt8) :=
  match skipBlanks input with
  | [] => .error ⟨.endInValue, []⟩
  | 91 :: rest => (Bracket.list.close rest).map fun rest => (none, rest)
  | 123 :: rest => (Bracket.object.close rest).map fun rest => (none, rest)
  | b :: rest => (readScalar b rest).map fun (v, rest) => (some v, rest)

def isText : Tree → Bool
  | .text _ => true
  | _ => false

def isTextList : Tree → Bool
  | .list items => items.all isText
  | _ => false

/-- A name out of a choice, written as a text or as an object with that single member, and what the
member holds. -/
def choice? : Tree → Option (String × Tree)
  | .text s => some (s, .null)
  | .object [(name, v)] => some (name, v)
  | _ => none

end Tree
end Giro.Json
