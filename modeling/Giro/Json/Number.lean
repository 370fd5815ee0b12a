import Giro.Json.Syntax

/-!
# What a number means

A whole number without fraction and exponent is exact as long as it fits 64 bits, unsigned when
positive and signed when negative. Every other number, and negative zero, is a float: as many digits
as fit an unsigned 64-bit number, scaled by a power of ten in floating point, which may be off by a
unit in the last place.
-/

namespace Giro.Json

inductive NumberValue where
  | natural (n : Nat)
  | negative (n : Int)
  | float (x : Float)

namespace Numeral

def limit : Nat := 18446744073709551615

/-- Digits taken into a significand as long as it fits, and the digits that are left. -/
def take (acc : Nat) : List Nat → Nat × List Nat
  | [] => (acc, [])
  | d :: ds => if acc * 10 + d ≤ limit then take (acc * 10 + d) ds else (acc, d :: ds)

/-- Divides or multiplies by powers of ten of at most 308. -/
def scaleFloat : Nat → Float → Int → Option Float
  | 0, x, _ => some x
  | fuel + 1, x, exponent =>
    if exponent.natAbs ≤ 308 then
      if 0 ≤ exponent then
        let y := x * Float.ofScientific 1 false exponent.natAbs
        if y.isInf then none else some y
      else some (x / Float.ofScientific 1 false exponent.natAbs)
    else if x == 0 then some x
    else if 0 ≤ exponent then none
    else scaleFloat fuel (x / Float.ofScientific 1 false 308) (exponent + 308)

def signed (isNegative : Bool) (x : Float) : NumberValue := .float (if isNegative then -x else x)

def ofParts (isNegative : Bool) (significand : Nat) (exponent : Int) :
    Except SyntaxError NumberValue :=
  match scaleFloat 8 (UInt64.ofNat significand).toFloat exponent with
  | some x => .ok (signed isNegative x)
  | none => .error .numberOutOfRange

/-- Takes the digits of an exponent until it does not fit 32 bits, and gives the digits that are
left. -/
def takeExponent (acc : Nat) : List Nat → Nat × List Nat
  | [] => (acc, [])
  | d :: ds =>
    if acc * 10 + d ≤ 2147483647 then takeExponent (acc * 10 + d) ds else (acc * 10 + d, ds)

/-- Applies the written exponent; one that does not fit 32 bits gives zero or is out of range. -/
def applyExponent (n : Numeral) (significand : Nat) (start : Int) :
    Except SyntaxError NumberValue :=
  match n.exponent with
  | none => ofParts n.isNegative significand start
  | some (isNegative, digits) =>
    let (written, _) := takeExponent 0 digits
    if 2147483647 < written then
      if significand ≠ 0 ∧ !isNegative then .error .numberOutOfRange
      else .ok (signed n.isNegative 0)
    else
      ofParts n.isNegative significand
        (if isNegative then start - (written : Int) else start + (written : Int))

def value (n : Numeral) : Except SyntaxError NumberValue :=
  let (significand, left) := take 0 n.whole
  if left.isEmpty ∧ n.fraction.isEmpty ∧ n.exponent.isNone then
    if !n.isNegative then .ok (.natural significand)
    else if significand = 0 ∨ 9223372036854775808 < significand then
      .ok (signed true (UInt64.ofNat significand).toFloat)
    else .ok (.negative (-(significand : Int)))
  else
    let (fuller, unused) := take significand n.fraction
    let taken := n.fraction.length - unused.length
    n.applyExponent fuller ((left.length : Int) - (taken : Int))

/-- How many digits at the end are not looked at when the number is out of range. -/
def unread (n : Numeral) : Nat :=
  match n.exponent with
  | some (_, digits) => (takeExponent 0 digits).2.length
  | none => 0

end Numeral

/-- Reads a number. One that is out of range is known to be so before all digits of its exponent are
taken. -/
def readNumber (input : List UInt8) : Except Stop (NumberValue × List UInt8) := do
  let (n, rest) ← readNumeral input
  match n.value with
  | .ok v => return (v, rest)
  | .error why => .error ⟨why, input.drop (input.length - (rest.length + n.unread))⟩

/-- The number as an integer, if it is written as one that fits. -/
def Numeral.integer? (n : Numeral) : Option Int :=
  match n.value with
  | .ok (.natural k) => if k ≤ 9223372036854775807 then some k else none
  | .ok (.negative k) => some k
  | _ => none

end Giro.Json
