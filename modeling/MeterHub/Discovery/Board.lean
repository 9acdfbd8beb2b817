import MeterHub.Discovery

/-!
A board of ports that are plugged and unplugged by hand. It enumerates what is plugged, knows native
ports besides, and counts how often it enumerates. Enumeration can be made to fail, and to break
down altogether.
-/

set_option autoImplicit false
set_option relaxedAutoImplicit false

namespace MeterHub

/-- A board. The native ports are found by name only. -/
structure PortBoard where
  ports : List Port := []
  native : List Port := []
  failing : Bool := false
  /-- Enumeration breaks down instead of answering. -/
  panicking : Bool := false
  calls : Nat := 0

namespace PortBoard

/-- A port is plugged, unless the very same one is plugged already. -/
def plug (b : PortBoard) (port : Port) : PortBoard :=
  if b.ports.contains port then b else { b with ports := b.ports ++ [port] }

def unplug (b : PortBoard) (name : String) : Option Port × PortBoard :=
  (b.ports.find? fun port => port.name == name,
    { b with ports := b.ports.eraseP fun port => port.name == name })

def ofPorts (ports : List Port) : PortBoard := ports.foldl plug {}

def breakdown : Failure := .transport "discovery" "enumeration failed"

def enumeration (b : PortBoard) : Except Failure (List Port) :=
  if b.failing || b.panicking then .error breakdown else .ok b.ports

/-- The answers of the board. A native port of the board's own goes before an attached one. -/
def discovery (b : PortBoard) : Discovery :=
  { ports := b.enumeration
    byId := Discovery.scanId b.enumeration
    byName := Discovery.scanName b.enumeration
    native := fun name =>
      (b.native.find? fun port => port.name == name).or (Discovery.scanName b.enumeration name) }

def count (b : PortBoard) : PortBoard := { b with calls := b.calls + 1 }

/-- The enumerations that a question costs: none if a native port of the board's own answers it. -/
def charge (b : PortBoard) : Lookup → PortBoard
  | .native name => if b.native.any fun port => port.name == name then b else b.count
  | _ => b.count

inductive Query
  | ask (question : Lookup)
  /-- A native port, looked up as if the board knew none of its own. -/
  | askDefaultNative (name : String)
  | unplug (name : String)

def answer (d : Discovery) : Lookup → Option Port
  | .id id => d.byId id
  | .name name => d.byName name
  | .native name => d.native name

/-- One query with the port that it finds or unplugs. -/
def query (b : PortBoard) : Query → Option Port × PortBoard
  | .ask question => (answer b.discovery question, b.charge question)
  | .askDefaultNative name => ((Discovery.ofEnumeration b.enumeration).native name, b.count)
  | .unplug name => b.unplug name

def queryAll (b : PortBoard) : List Query → List (Option Port) × PortBoard
  | [] => ([], b)
  | q :: queries =>
    let (found, b) := b.query q
    let (more, b) := b.queryAll queries
    (found :: more, b)

end PortBoard

end MeterHub
