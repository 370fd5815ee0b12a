import Giro.Codec.Hex

/-!
# Universally unique identifiers

Sixteen bytes. They are written as 32 lower-case digits in groups of 8, 4, 4, 4 and 12; they are
read in that form, without the hyphens, in braces, or after `urn:uuid:`, in either case.
-/

namespace Giro

structure Uuid where
  bytes : List UInt8
  length_bytes : bytes.length = 16
  deriving DecidableEq

namespace Uuid

open Codec

def ofBytes? (bytes : List UInt8) : Option Uuid :=
  if h : bytes.length = 16 then some ⟨bytes, h⟩ else none

/-- The identifier of version 4 that keeps all other bits of the given bytes. -/
def random (bytes : List UInt8) (h : bytes.length = 16) : Uuid where
  bytes := (bytes.set 6 (bytes[6] &&& 0x0f ||| 0x40)).set 8 (bytes[8] &&& 0x3f ||| 0x80)
  length_bytes := by simp [h]

/-- Puts a hyphen after the digits 8, 12, 16 and 20. -/
def hyphenate (digits : List Char) : List Char :=
  digits.take 8 ++ '-' :: ((digits.drop 8).take 4 ++ '-' :: ((digits.drop 12).take 4 ++
    '-' :: ((digits.drop 16).take 4 ++ '-' :: digits.drop 20)))

def write (id : Uuid) : List Char := hyphenate (Hex.encode id.bytes)

def text (id : Uuid) : String := String.ofList id.write

def readPlain (cs : List Char) : Option Uuid := (Hex.decode cs).bind ofBytes?

def readHyphenated (cs : List Char) : Option Uuid :=
  let digits :=
    cs.take 8 ++ (cs.drop 9).take 4 ++ (cs.drop 14).take 4 ++ (cs.drop 19).take 4 ++ cs.drop 24
  if cs = hyphenate digits then readPlain digits else none

def read (cs : List Char) : Option Uuid :=
  if cs.length = 32 then readPlain cs
  else if cs.length = 36 then readHyphenated cs
  else if cs.length = 38 ∧ cs.head? = some '{' ∧ cs.getLast? = some '}' then
    readHyphenated ((cs.drop 1).take 36)
  else if cs.length = 45 ∧ (cs.take 9).map Char.toLower = "urn:uuid:".toList then
    readHyphenated (cs.drop 9)
  else none

def ofText? (s : String) : Option Uuid := read s.toList

theorem readHyphenated_hyphenate {digits : List Char} (h : digits.length = 32) :
    readHyphenated (hyphenate digits) = readPlain digits := by
  have groups : (hyphenate digits).take 8 ++ ((hyphenate digits).drop 9).take 4 ++
      ((hyphenate digits).drop 14).take 4 ++ ((hyphenate digits).drop 19).take 4 ++
        (hyphenate digits).drop 24 = digits := by
    have join (n : Nat) : (digits.drop n).take 4 ++ digits.drop (n + 4) = digits.drop n := by
      rw [← List.drop_drop, List.take_append_drop]
    simp [hyphenate, List.drop_append, List.drop_take, h, join]
  simp only [readHyphenated, groups, if_true]

/-- An identifier that is written is read back. -/
theorem ofText?_text (id : Uuid) : ofText? id.text = some id := by
  have length : (Hex.encode id.bytes).length = 32 := by
    rw [Hex.length_encode, id.length_bytes]
  have written : id.write.length = 36 := by simp [write, hyphenate, length]
  have plain : readPlain (Hex.encode id.bytes) = some id := by
    simp [readPlain, Hex.decode_encode, ofBytes?, id.length_bytes]
  rw [ofText?, text, String.toList_ofList, read, if_neg (by omega), if_pos written, write,
    readHyphenated_hyphenate length, plain]

end Uuid
end Giro
