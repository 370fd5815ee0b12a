import Giro.Text.Integer
import Giro.Text.Utf8

/-!
# JSON values and their text

The values that the service writes. Text is written byte by byte: a quote, a backslash and control
characters are escaped, all other bytes stand for themselves. Members keep their order.
-/

namespace Giro

inductive Json where
  | null
  | bool (b : Bool)
  | number (n : Int)
  | text (s : String)
  | array (items : List Json)
  | object (members : List (String × Json))

namespace Json

open Text

def lowerHex (n : Nat) : UInt8 := if n < 10 then UInt8.ofNat (n + 48) else UInt8.ofNat (n + 87)

/-- The short escapes: letter after the backslash. -/
def shortEscape? (b : UInt8) : Option UInt8 :=
  if b = 8 then some 98
  else if b = 9 then some 116
  else if b = 10 then some 110
  else if b = 12 then some 102
  else if b = 13 then some 114
  else if b = 34 ∨ b = 92 then some b
  else none

def escapeByte (b : UInt8) : List UInt8 :=
  match shortEscape? b with
  | some letter => [92, letter]
  | none =>
    if b < 32 then [92, 117, 48, 48, lowerHex (b.toNat / 16), lowerHex (b.toNat % 16)] else [b]

def writeText (s : String) : List UInt8 := 34 :: ((utf8 s).flatMap escapeByte ++ [34])

def writeInteger (n : Int) : List UInt8 := (Integer.write n).map fun c => UInt8.ofNat c.toNat

def joinBytes (separator : UInt8) : List (List UInt8) → List UInt8
  | [] => []
  | [item] => item
  | item :: rest => item ++ separator :: joinBytes separator rest

/-- The text of a value without blanks. -/
def write : Json → List UInt8
  | .null => utf8 "null"
  | .bool true => utf8 "true"
  | .bool false => utf8 "false"
  | .number n => writeInteger n
  | .text s => writeText s
  | .array items => 91 :: (joinBytes 44 (items.map write) ++ [93])
  | .object members =>
    123 :: (joinBytes 44 (members.map fun m => writeText m.1 ++ 58 :: write m.2) ++ [125])
  decreasing_by
    · rename_i h
      have := List.sizeOf_lt_of_mem h
      simp only [array.sizeOf_spec]
      omega
    · rename_i h
      have := List.sizeOf_lt_of_mem h
      cases m
      simp only [Prod.mk.sizeOf_spec, object.sizeOf_spec] at this ⊢
      omega

end Json
end Giro
