import Giro.Text.Integer
import Giro.Time

/-!
# Dates in text

A moment as year, month, day and time of day in universal time, with as many decimal places as it
needs: none, three, six or nine.
-/

namespace Giro

namespace Calendar

open Text

/-- Year, month and day of a day number counted from the start of 1970. -/
def civil (day : Int) : Int × Nat × Nat :=
  let z := day + 719468
  let era := z.fdiv 146097
  let dayOfEra := (z - era * 146097).toNat
  let yearOfEra := (dayOfEra - dayOfEra / 1460 + dayOfEra / 36524 - dayOfEra / 146096) / 365
  let dayOfYear := dayOfEra - (365 * yearOfEra + yearOfEra / 4 - yearOfEra / 100)
  let shifted := (5 * dayOfYear + 2) / 153
  let d := dayOfYear - (153 * shifted + 2) / 5 + 1
  let m := if shifted < 10 then shifted + 3 else shifted - 9
  let y := (yearOfEra : Int) + era * 400 + if m ≤ 2 then 1 else 0
  (y, m, d)

def padded (width n : Nat) : List Char :=
  let digits := Integer.digits n
  List.replicate (width - digits.length) '0' ++ digits

/-- Years outside 0 to 9999 carry a sign. -/
def year (y : Int) : List Char :=
  if 0 ≤ y ∧ y ≤ 9999 then padded 4 y.toNat
  else (if y < 0 then '-' else '+') :: padded 4 y.natAbs

def fraction (nanos : Nat) : List Char :=
  if nanos = 0 then []
  else if nanos % 1000000 = 0 then '.' :: padded 3 (nanos / 1000000)
  else if nanos % 1000 = 0 then '.' :: padded 6 (nanos / 1000)
  else '.' :: padded 9 nanos

end Calendar

open Calendar in
def Timestamp.text (t : Timestamp) : String :=
  let seconds := t.seconds
  let nanos := (t.nanos - seconds * 1000000000).toNat
  let day := seconds.fdiv 86400
  let time := (seconds - day * 86400).toNat
  let (y, m, d) := civil day
  String.ofList (year y ++ '-' :: padded 2 m ++ '-' :: padded 2 d ++ 'T' ::
    padded 2 (time / 3600) ++ ':' :: padded 2 (time / 60 % 60) ++ ':' :: padded 2 (time % 60) ++
    fraction nanos ++ ['Z'])

end Giro
