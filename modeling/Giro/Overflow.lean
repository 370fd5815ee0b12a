import Giro.Time

/-!
# Overflows

Arithmetic that leaves the range of its numbers ends a request without an answer. Two kinds of it
can do so: dates, which end with the calendar, and the memory that the lanes of a password hash need
at least, which is counted in 32 bits.
-/

namespace Giro

inductive Overflow where
  | time (why : TimeOverflow)
  | lanes
  deriving DecidableEq

def Overflow.message : Overflow → String
  | .time why => why.message
  | .lanes => "attempt to multiply with overflow"

end Giro
