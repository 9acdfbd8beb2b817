/-!
Alarms. An alarm is set for a moment in nanoseconds and goes off with a clock of whole milliseconds,
never before its moment.
-/

set_option autoImplicit false
set_option relaxedAutoImplicit false

namespace MeterHub

/-- An alarm: the moment for which it was set, and how many alarms were set before it. -/
structure Alarm where
  due : Nat
  rank : Nat
deriving DecidableEq

namespace Alarm

/-- The millisecond in which an alarm goes off: the first one that is not before its moment. -/
def millis (a : Alarm) : Nat := (a.due + 999999) / 1000000

theorem due_le_millis (a : Alarm) :
    a.due ≤ a.millis * 1000000 ∧ a.millis * 1000000 < a.due + 1000000 := by
  unfold millis
  omega

/-- Alarms go off by the millisecond, and within one in the order in which they were set. -/
def goesBefore (a b : Alarm) : Bool :=
  a.millis < b.millis || (a.millis == b.millis && a.rank ≤ b.rank)

end Alarm

end MeterHub
