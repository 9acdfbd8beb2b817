import MeterHub.Identifier

/-!
Ports: the serial devices that meters are attached to. A port has a name and, where the platform
gives one, a stable id.
-/

set_option autoImplicit false
set_option relaxedAutoImplicit false

namespace MeterHub

structure Port where
  id : Option String
  name : String
deriving DecidableEq

namespace Port

/-- The address of the device before any frame has come from it. -/
def identifier (p : Port) : Identifier := Identifier.ofPort p.id p.name

/-- Whether two descriptions are of one physical port: ids known on both sides decide, else the
names do. -/
def same (p q : Port) : Bool :=
  match p.id, q.id with
  | some a, some b => a == b
  | _, _ => p.name == q.name

def inspect (p : Port) : String :=
  Text.inspectRecord "PortDescriptor"
    [("port_id", Text.inspectOption Text.inspectText p.id),
      ("port_name", Text.inspectText p.name)] false

theorem same_refl (p : Port) : p.same p = true := by
  obtain ⟨_ | id, name⟩ := p <;> simp [same]

theorem same_comm (p q : Port) : p.same q = q.same p := by
  obtain ⟨_ | a, n⟩ := p <;> obtain ⟨_ | b, m⟩ := q <;> simp [same, Bool.beq_comm]

end Port

end MeterHub
