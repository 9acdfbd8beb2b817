import MeterHub.Failure
import MeterHub.Json.Decode
import MeterHub.Json.Value

/-!
Identifiers in the data format: a record of the attributes that are set. Reading refuses a record
that sets none of them.
-/

set_option autoImplicit false
set_option relaxedAutoImplicit false

namespace MeterHub.Identifier

open Json

/-- The record of the attributes that are set. -/
def toJson (i : Identifier) : Value :=
  .record (i.parts.map fun part => (part.1, .text part.2))

/-- The three attributes as they are read; each may be null. -/
structure Fields where
  portId : Option (Option String) := none
  portName : Option (Option String) := none
  serialNumber : Option (Option String) := none

def shape : Shape Fields Draft where
  title := "struct RawIdentifier"
  columns :=
    [⟨"portId", (·.portId.isSome), fun node d => do
        return { d with portId := some (← node.toOption Node.toText) }⟩,
      ⟨"portName", (·.portName.isSome), fun node d => do
        return { d with portName := some (← node.toOption Node.toText) }⟩,
      ⟨"serialNumber", (·.serialNumber.isSome), fun node d => do
        return { d with serialNumber := some (← node.toOption Node.toText) }⟩]
  blank := {}
  finish d := return ⟨d.portId.getD none, d.portName.getD none, d.serialNumber.getD none⟩
  tolerant := true

def ofNode (node : Node) : Reading Identifier := do
  match (← shape.read node).build with
  | .ok identifier => return identifier
  | .error failure => .error (.mismatch (.refused failure.message))

end MeterHub.Identifier
