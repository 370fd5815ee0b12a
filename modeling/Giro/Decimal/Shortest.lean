import Giro.Text.Integer

/-!
# The shortest decimal of a binary number

A finite 64-bit float stands for the interval of reals that round to it. `Binary.shortest` gives the
fewest digits of a decimal in that interval, and of those the nearest to the float, all in exact
integer arithmetic. `Binary.text` lays the digits out.
-/

namespace Giro.Decimal

open Text

/-- The number `mantissa * 2^exponent`. Below a power of two the next float is half as far away as
above. -/
structure Binary where
  mantissa : Nat
  exponent : Int
  isNarrowBelow : Bool

/-- The magnitude of a finite float. -/
def Binary.ofBits (bits : UInt64) : Binary :=
  let e := ((bits >>> 52) &&& 0x7ff).toNat
  let f := (bits &&& 0xfffffffffffff).toNat
  if e = 0 then ⟨f, -1074, false⟩ else ⟨0x10000000000000 + f, (e : Int) - 1075, f = 0 && 1 < e⟩

/-- The number `digits * 10^exponent`. -/
structure Scaled where
  digits : Nat
  exponent : Int

/-- Compares `a * 10^i` with `b * 2^j`. -/
def compareScaled (a : Nat) (i : Int) (b : Nat) (j : Int) : Ordering :=
  compare (a * Nat.pow 10 i.toNat * Nat.pow 2 (-j).toNat)
    (b * Nat.pow 2 j.toNat * Nat.pow 10 (-i).toNat)

namespace Binary

variable (x : Binary)

/-- Whether a decimal rounds to the number; the ends of the interval belong to an even mantissa. -/
def contains (d : Scaled) : Bool :=
  let low := if x.isNarrowBelow then 4 * x.mantissa - 1 else 4 * x.mantissa - 2
  let fromLow := compareScaled d.digits d.exponent low (x.exponent - 2)
  let fromHigh := compareScaled d.digits d.exponent (4 * x.mantissa + 2) (x.exponent - 2)
  let isEven := x.mantissa % 2 == 0
  (fromLow == .gt || (isEven && fromLow == .eq)) && (fromHigh == .lt || (isEven && fromHigh == .eq))

/-- The integer part of the number over `10^k`. -/
def quotient (k : Int) : Nat :=
  (x.mantissa * Nat.pow 2 x.exponent.toNat * Nat.pow 10 (-k).toNat) /
    (Nat.pow 2 (-x.exponent).toNat * Nat.pow 10 k.toNat)

/-- The decimal on the grid of `10^k` that rounds to the number and is nearest to it, ties going to
even digits. -/
def onGrid? (k : Int) : Option Scaled :=
  let below : Scaled := ⟨x.quotient k, k⟩
  let above : Scaled := ⟨x.quotient k + 1, k⟩
  match x.contains below, x.contains above with
  | false, false => none
  | true, false => some below
  | false, true => some above
  | true, true =>
    match compareScaled (2 * below.digits + 1) k (2 * x.mantissa) x.exponent with
    | .gt => some below
    | .lt => some above
    | .eq => some (if below.digits % 2 = 0 then below else above)

/-- The least `k` for which the number is below `10^k`. -/
def scale : Int :=
  let estimate := ((x.mantissa.log2 : Int) + x.exponent) * 30103 / 100000
  ((List.range 4).map fun i : Nat => estimate - 1 + Int.ofNat i).find? (fun k =>
    compareScaled 1 k x.mantissa x.exponent == .gt) |>.getD (estimate + 2)

def shortest : Scaled :=
  ((List.range 17).findSome? fun n : Nat => x.onGrid? (x.scale - 1 - Int.ofNat n)).getD
    ⟨x.quotient (x.scale - 17), x.scale - 17⟩

end Binary

/-- Digits without trailing zeros, and the exponent of the first one. -/
def Scaled.leading (d : Scaled) : List Char × Int :=
  let all := Integer.digits d.digits
  (((all.reverse.dropWhile (· == '0')).reverse), (all.length : Int) + d.exponent - 1)

/-- Positional when the exponent of the first digit is from -5 to 15, with at least one digit on
each side of the point; otherwise with a signed exponent. -/
def layout (digits : List Char) (exponent : Int) : List Char :=
  if -5 ≤ exponent ∧ exponent ≤ 15 then
    if exponent < 0 then
      '0' :: '.' :: (List.replicate (-exponent - 1).toNat '0' ++ digits)
    else
      let n := exponent.toNat + 1
      let whole := digits.take n ++ List.replicate (n - digits.length) '0'
      let fraction := digits.drop n
      whole ++ '.' :: (if fraction.isEmpty then ['0'] else fraction)
  else
    let mark := if exponent < 0 then ['e', '-'] else ['e', '+']
    let mantissa := match digits with
      | [] => []
      | [d] => [d]
      | d :: rest => d :: '.' :: rest
    mantissa ++ mark ++ Integer.digits exponent.natAbs

/-- The text of a finite float; a zero keeps its sign. -/
def text (x : Float) : String :=
  let bits := x.toBits
  let sign := if bits >>> 63 = 0 then [] else ['-']
  let magnitude := Binary.ofBits (bits &&& 0x7fffffffffffffff)
  let body :=
    if magnitude.mantissa = 0 then ['0', '.', '0']
    else
      let (digits, exponent) := magnitude.shortest.leading
      layout digits exponent
  String.ofList (sign ++ body)

end Giro.Decimal
