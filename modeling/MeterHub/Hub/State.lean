import MeterHub.Config
import MeterHub.Lanes
import MeterHub.Presence
import MeterHub.Registry
import MeterHub.Session

/-!
The state of a hub. A hub acquires from ports through sessions, keeps a registry of who wants to
hear what, and tells them through delivery lanes. Sources, reads and questions to discovery are kept
in ledgers that only grow, so that an index into one names the same thing for ever.
-/

set_option autoImplicit false
set_option relaxedAutoImplicit false

namespace MeterHub

/-- Who is told events: a listener known by its name, or a read known by its index. -/
inductive Subscriber
  | listener (name : String)
  | reader (index : Nat)
deriving DecidableEq

/-- The one listener of every session of a hub: the hub itself. -/
inductive Relay
  | hub
deriving DecidableEq

/-- A live session, with the index of its source. -/
structure Live where
  source : Nat
  session : Session Relay
deriving DecidableEq

namespace Live

def identifier (live : Live) : Identifier := live.session.identifier

def port (live : Live) : Port := live.session.port

end Live

/-- A read of the next frame: what it waits for and how long, the first event that it was handed,
and how it ended. -/
structure Read where
  key : Identifier
  timeout : Span
  answer : Option Event := none
  result : Option (Except Failure Capture) := none

/-- What surrounds a hub: the answers of discovery, and what comes of opening sources. -/
structure Site where
  discovery : Discovery
  opening : Opening

/-- A hub. The notices are the identifiers of unplugged devices that are yet to be announced. -/
structure Hub where
  config : Config
  sessions : List Live := []
  sources : List Source := []
  registry : Registry Identifier Subscriber := {}
  lanes : Lanes Subscriber := {}
  running : Bool := false
  poller : Option Poller := none
  notices : List Identifier := []
  reads : List Read := []
  lookups : List Lookup := []

namespace Hub

/-- The identifiers of the live sessions in session order, each once. -/
def available (h : Hub) : List Identifier :=
  Distinct.ofList (h.sessions.map Live.identifier)

/-- Who wants to hear about a stream: those without a filter, and those with a filter that the
identifier passes. -/
def interest (h : Hub) (i : Identifier) : List Subscriber :=
  h.registry.interested Identifier.agrees i true

def identifiersOf (h : Hub) (s : Subscriber) : List Identifier := h.registry.keysOf s

def isSubscribed (h : Hub) (s : Subscriber) : Bool := h.registry.contains s

def subscriberCount (h : Hub) : Nat := h.registry.subscribers.length

def modifySession (h : Hub) (index : Nat) (change : Session Relay → Session Relay) : Hub :=
  { h with
    sessions := h.sessions.map fun live =>
      if live.source = index then { live with session := change live.session } else live }

def closeLane (h : Hub) (s : Subscriber) : Hub := { h with lanes := h.lanes.close s }

def inspect (h : Hub) : String :=
  Text.inspectRecord "TicOrchestrator"
    [("running", Text.inspectBool h.running), ("sessions", toString h.sessions.length),
      ("subscribers", toString h.subscriberCount)] true

end Hub

end MeterHub
