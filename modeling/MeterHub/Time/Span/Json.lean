import MeterHub.Json.Decode
import MeterHub.Json.Value
import MeterHub.Time.Span

/-!
Spans of time in the data format: a record of seconds and nanoseconds and nothing else. Whole
seconds among the nanoseconds carry over.
-/

set_option autoImplicit false
set_option relaxedAutoImplicit false

namespace MeterHub.Span

open Json

def toJson (d : Span) : Value := .record [("secs", .nat d.secs), ("nanos", .nat d.nanos)]

structure Fields where
  secs : Option Nat := none
  nanos : Option Nat := none

def shape : Shape Fields Span where
  title := "struct Duration"
  columns :=
    [⟨"secs", (·.secs.isSome), fun node d => do
        return { d with secs := some (← node.toNatBelow UInt64.size "u64") }⟩,
      ⟨"nanos", (·.nanos.isSome), fun node d => do
        return { d with nanos := some (← node.toNatBelow UInt32.size "u32") }⟩]
  blank := {}
  finish d := do
    let secs ← required "secs" d.secs
    let nanos ← required "nanos" d.nanos
    match ofCarry? secs nanos with
    | some span => return span
    | none => .error (.mismatch (.refused "overflow deserializing Duration"))
  refusesOthers := true
  namesCount := false

def ofNode (node : Node) : Reading Span := shape.read node

end MeterHub.Span
