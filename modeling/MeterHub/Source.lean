import MeterHub.Failure
import MeterHub.Port

/-!
Frame sources: what reads a port and decodes it. A source runs from a successful start until it is
stopped. It may speak inside any start, also one that fails, and inside the stop that comes next.
-/

set_option autoImplicit false
set_option relaxedAutoImplicit false

namespace MeterHub

/-- How a source behaves: whether it can be started, what it says inside a start, and what it says
inside the stop that follows a start. -/
structure Script where
  start : Except Failure Unit := .ok ()
  greeting : List Signal := []
  lastWords : List Signal := []

/-- What comes of opening a source on a port in a mode. -/
abbrev Opening := Port → Mode → Except Failure Script

/-- A source that was opened, with the count of its starts and stops. It is linked from a start,
even one that fails, until it is stopped: so long it has someone to speak to. -/
structure Source where
  port : Port
  mode : Mode
  script : Script
  starts : Nat := 0
  stops : Nat := 0
  linked : Bool := false
  running : Bool := false

namespace Source

/-- Starts a source: whether that succeeds, and what it says meanwhile. -/
def start (s : Source) : Except Failure Unit × List Signal × Source :=
  let started := { s with starts := s.starts + 1, linked := true }
  match s.script.start with
  | .ok () => (.ok (), s.script.greeting, { started with running := true })
  | .error failure => (.error failure, s.script.greeting, started)

/-- Stops a source: what it says meanwhile. -/
def stop (s : Source) : List Signal × Source :=
  (if s.linked then s.script.lastWords else [],
    { s with stops := s.stops + 1, linked := false, running := false })

def inspect (s : Source) : String :=
  Text.inspectRecord "FakeFrameSource"
    [("port", Text.inspectOption Port.inspect (some s.port)),
      ("running", Text.inspectBool s.running), ("starts", toString s.starts),
      ("stops", toString s.stops)] false

end Source

end MeterHub
