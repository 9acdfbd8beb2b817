import MeterHub.Failure
import MeterHub.Port

/-!
Discovery: what can be asked about the ports that are attached. Only the enumeration is essential;
by default a port is looked up by scanning it, and an enumeration that fails counts as empty.
-/

set_option autoImplicit false
set_option relaxedAutoImplicit false

namespace MeterHub

/-- The answers that discovery gives. Native ports may be reachable without being enumerated. -/
structure Discovery where
  ports : Except Failure (List Port)
  byId : String → Option Port
  byName : String → Option Port
  native : String → Option Port

namespace Discovery

/-- The ports of an enumeration; a failing one counts as empty. -/
def attached (ports : Except Failure (List Port)) : List Port :=
  match ports with
  | .ok ports => ports
  | .error _ => []

def scanId (ports : Except Failure (List Port)) (id : String) : Option Port :=
  (attached ports).find? fun port => port.id == some id

def scanName (ports : Except Failure (List Port)) (name : String) : Option Port :=
  (attached ports).find? fun port => port.name == name

/-- Discovery by enumeration alone: every look-up is a scan. -/
def ofEnumeration (ports : Except Failure (List Port)) : Discovery :=
  ⟨ports, scanId ports, scanName ports, scanName ports⟩

end Discovery

/-- One question to discovery about a single port. -/
inductive Lookup
  | id (id : String)
  | name (name : String)
  | native (name : String)
deriving DecidableEq

/-- What a session is to be opened on. An id goes before a name. -/
structure Request where
  portId : Option String
  portName : Option String
  mode : Option Mode
deriving DecidableEq

namespace Request

/-- The request for the port that an identifier names. No port can be found by serial number. -/
def ofIdentifier (i : Identifier) (mode : Option Mode) : Request :=
  ⟨i.portId, i.portName, mode⟩

/-- The question that resolving a request takes. -/
def lookup? (r : Request) : Option Lookup :=
  match r.portId, r.portName with
  | some id, _ => some (.id id)
  | none, some name => some (.name name)
  | none, none => none

def resolve (r : Request) (d : Discovery) : Except Failure Port :=
  match r.portId, r.portName with
  | some id, _ =>
    match d.byId id with
    | some port => .ok port
    | none => .error (.portIdNotFound id)
  | none, some name =>
    match d.byName name with
    | some port => .ok port
    | none => .error (.portNameNotFound name)
  | none, none => .error .portDescriptorEmpty

end Request

end MeterHub
