import MeterHub.Json.Decode
import MeterHub.Json.Value
import MeterHub.Port

/-!
Ports in the data format: a record of the id, which may be null, and the name.
-/

set_option autoImplicit false
set_option relaxedAutoImplicit false

namespace MeterHub.Port

open Json

def toJson (p : Port) : Value :=
  .record [("port_id", .ofOption .text p.id), ("port_name", .text p.name)]

structure Fields where
  id : Option (Option String) := none
  name : Option String := none

/-- The record type of ports. A missing id is a null one. -/
def shape : Shape Fields Port where
  title := "struct PortDescriptor"
  columns :=
    [⟨"port_id", (·.id.isSome), fun node d => do
        return { d with id := some (← node.toOption Node.toText) }⟩,
      ⟨"port_name", (·.name.isSome), fun node d => do
        return { d with name := some (← node.toText) }⟩]
  blank := {}
  finish d := do
    let name ← required "port_name" d.name
    return ⟨d.id.getD none, name⟩

def ofNode (node : Node) : Reading Port := shape.read node

end MeterHub.Port
