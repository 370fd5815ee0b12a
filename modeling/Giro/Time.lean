/-!
# Moments and spans

A moment counts nanoseconds from the start of 1970. The calendar ends: moments lie in whole seconds
between `Timestamp.firstSecond` and `Timestamp.lastSecond`, and a span is at most `Span.limit`
seconds either way. Going beyond either limit is an overflow with a cause of its own, and never a
wrapped or clamped date.
-/

namespace Giro

/-- Date arithmetic that leaves the calendar. -/
inductive TimeOverflow where
  | minutes
  | hours
  | date
  deriving DecidableEq

def TimeOverflow.message : TimeOverflow → String
  | .minutes => "TimeDelta::minutes out of bounds"
  | .hours => "TimeDelta::hours out of bounds"
  | .date => "`DateTime + TimeDelta` overflowed"

/-- A length of time in whole seconds. -/
structure Span where
  seconds : Int
  deriving DecidableEq

namespace Span

/-- The longest span in either direction: the whole seconds in 2^63 - 1 milliseconds. -/
def limit : Int := 9223372036854775

def InBounds (seconds : Int) : Prop := -limit ≤ seconds ∧ seconds ≤ limit

instance (s : Int) : Decidable (InBounds s) := inferInstanceAs (Decidable (_ ∧ _))

def ofMinutes (n : Int) : Except TimeOverflow Span :=
  if InBounds (n * 60) then .ok ⟨n * 60⟩ else .error .minutes

def ofHours (n : Int) : Except TimeOverflow Span :=
  if InBounds (n * 3600) then .ok ⟨n * 3600⟩ else .error .hours

end Span

/-- A moment, in nanoseconds from the start of 1970. -/
structure Timestamp where
  nanos : Int
  deriving DecidableEq

namespace Timestamp

def firstSecond : Int := -8334601228800

def lastSecond : Int := 8210266876799

/-- Whether the calendar holds this second. -/
def Holds (seconds : Int) : Prop := firstSecond ≤ seconds ∧ seconds ≤ lastSecond

instance (s : Int) : Decidable (Holds s) := inferInstanceAs (Decidable (_ ∧ _))

/-- The whole seconds that have passed, rounded down. -/
def seconds (t : Timestamp) : Int := t.nanos.fdiv 1000000000

def ofSeconds (s : Int) : Timestamp := ⟨s * 1000000000⟩

def ofSeconds? (s : Int) : Option Timestamp := if Holds s then some (ofSeconds s) else none

/-- The second in which a moment lies. -/
def wholeSecond (t : Timestamp) : Timestamp := ofSeconds t.seconds

def epoch : Timestamp := ofSeconds 0

/-- Moves a moment by a span, within the calendar. -/
def shift (t : Timestamp) (d : Span) : Except TimeOverflow Timestamp :=
  if Holds (t.seconds + d.seconds) then .ok ⟨t.nanos + d.seconds * 1000000000⟩ else .error .date

instance : LE Timestamp := ⟨fun a b => a.nanos ≤ b.nanos⟩

instance : LT Timestamp := ⟨fun a b => a.nanos < b.nanos⟩

instance (a b : Timestamp) : Decidable (a ≤ b) := inferInstanceAs (Decidable (a.nanos ≤ b.nanos))

instance (a b : Timestamp) : Decidable (a < b) := inferInstanceAs (Decidable (a.nanos < b.nanos))

@[simp] theorem seconds_ofSeconds (s : Int) : (ofSeconds s).seconds = s := by
  simp [seconds, ofSeconds, Int.fdiv_eq_ediv_of_nonneg]

@[simp] theorem seconds_wholeSecond (t : Timestamp) : t.wholeSecond.seconds = t.seconds := by
  simp [wholeSecond]

theorem ofSeconds?_eq_some_iff {s : Int} {t : Timestamp} :
    ofSeconds? s = some t ↔ Holds s ∧ t = ofSeconds s := by
  unfold ofSeconds?
  split <;> simp_all [eq_comm]

end Timestamp
end Giro
