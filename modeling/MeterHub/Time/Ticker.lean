/-!
Tickers: when something that happens again and again is due. The first tick is due at once. A tick
that is served in time makes the next one due a period after its own time, and one that is served
too late a period after the moment of service. All moments are nanoseconds of one clock.
-/

set_option autoImplicit false
set_option relaxedAutoImplicit false

namespace MeterHub

/-- A ticker: its period, and the moment of the next tick unless it is due at once. -/
structure Ticker where
  period : Nat
  due : Option Nat := none
deriving DecidableEq

namespace Ticker

/-- How late a tick may be served without moving the ones behind it. -/
def tolerance : Nat := 5000000

def isDue (t : Ticker) (now : Nat) : Bool :=
  match t.due with
  | none => true
  | some due => due ≤ now

def tick (t : Ticker) (now : Nat) : Ticker :=
  let due := t.due.getD now
  { t with due := some ((if due + tolerance < now then now else due) + t.period) }

end Ticker

end MeterHub
