/-!
Spans of time: whole seconds and a rest in nanoseconds. A span is written in its largest unit whose
whole part is not zero, with the rest as a decimal fraction.
-/

set_option autoImplicit false
set_option relaxedAutoImplicit false

namespace MeterHub

/-- A span of time. The seconds fit 64 bits and the rest is below one second. -/
structure Span where
  secs : Nat
  nanos : Nat
  secs_lt : secs < UInt64.size := by decide
  nanos_lt : nanos < 1000000000 := by decide
deriving DecidableEq

namespace Span

def nanosPerSec : Nat := 1000000000

/-- The span of some seconds and nanoseconds, where whole seconds among the nanoseconds carry over;
none if the seconds then outgrow 64 bits. -/
def ofCarry? (secs nanos : Nat) : Option Span :=
  if h : secs + nanos / nanosPerSec < UInt64.size then
    some ⟨secs + nanos / nanosPerSec, nanos % nanosPerSec, h, Nat.mod_lt _ (by decide)⟩
  else none

/-- The span of some milliseconds, if its seconds fit 64 bits. -/
def ofMillis? (millis : Nat) : Option Span :=
  ofCarry? (millis / 1000) (millis % 1000 * 1000000)

def isZero (d : Span) : Bool :=
  d.secs == 0 && d.nanos == 0

def toNanos (d : Span) : Nat :=
  d.secs * nanosPerSec + d.nanos

/-- A count of units with a fraction of `width` digits, whose trailing zeros are not written. -/
def decimalText (whole rest width : Nat) : String :=
  let digits := Nat.toDigits 10 rest
  let padded := List.replicate (width - digits.length) '0' ++ digits
  let kept := (padded.reverse.dropWhile (· == '0')).reverse
  toString whole ++ (if kept.isEmpty then "" else "." ++ String.ofList kept)

/-- The written form: seconds, milliseconds, microseconds or nanoseconds, the largest of them whose
whole part is not zero. -/
def text (d : Span) : String :=
  if 0 < d.secs then decimalText d.secs d.nanos 9 ++ "s"
  else if 1000000 ≤ d.nanos then decimalText (d.nanos / 1000000) (d.nanos % 1000000) 6 ++ "ms"
  else if 1000 ≤ d.nanos then decimalText (d.nanos / 1000) (d.nanos % 1000) 3 ++ "µs"
  else toString d.nanos ++ "ns"

theorem isZero_iff (d : Span) : d.isZero = true ↔ d.toNanos = 0 := by
  simp only [isZero, toNanos, nanosPerSec, Bool.and_eq_true, beq_iff_eq]
  omega

theorem ext_parts {a b : Span} (secs : a.secs = b.secs) (nanos : a.nanos = b.nanos) : a = b := by
  cases a
  cases b
  simp_all

theorem ofCarry?_parts (d : Span) : ofCarry? d.secs d.nanos = some d := by
  have hs := d.secs_lt
  have hn := d.nanos_lt
  have hd : d.nanos / nanosPerSec = 0 := Nat.div_eq_of_lt hn
  have hm : d.nanos % nanosPerSec = d.nanos := Nat.mod_eq_of_lt hn
  have fits : d.secs + d.nanos / nanosPerSec < UInt64.size := by
    rw [hd]
    exact hs
  rw [ofCarry?, dif_pos fits]
  refine congrArg some (ext_parts ?_ hm)
  exact (congrArg (d.secs + ·) hd).trans (Nat.add_zero _)

end Span

end MeterHub
