import MeterHub.Discovery
import MeterHub.Source

/-!
Sessions: the acquisition from one port. A session learns the serial number of its meter from the
first frame that reveals one, stamps every event with the identifier that it knows then, and tells
its listeners in the order in which they came.
-/

set_option autoImplicit false
set_option relaxedAutoImplicit false

namespace MeterHub

/-- A session. A native one is kept open whoever listens, and an ephemeral one was opened for a
single read. -/
structure Session (σ : Type) where
  port : Port
  mode : Mode
  identifier : Identifier
  lastFrame : Option Frame := none
  native : Bool := false
  ephemeral : Bool := false
  listeners : List σ := []
deriving DecidableEq

/-- The identifier after a frame: a serial number that is known already stays, else the first one
that a frame reveals is learned. -/
def Identifier.learn (i : Identifier) (f : Frame) : Identifier :=
  match i.serialNumber, f.serialNumber? with
  | none, some serialNumber => i.withSerialNumber serialNumber
  | _, _ => i

namespace Session

variable {σ : Type} [DecidableEq σ]

def ofPort (port : Port) (mode : Mode) : Session σ := { port, mode, identifier := port.identifier }

/-- A new session on a port with its source. Without a mode no source is opened. -/
def openPort (port : Port) (mode : Option Mode) (opening : Opening) :
    Except Failure (Session σ × Source) :=
  match mode with
  | none => .error .modeNotDefined
  | some mode => do
    let script ← opening port mode
    return (ofPort port mode, { port, mode, script })

def openRequest (r : Request) (d : Discovery) (opening : Opening) :
    Except Failure (Session σ × Source) := do
  let port ← r.resolve d
  openPort port r.mode opening

/-- A further listener; one that is there already is not added again. -/
def listen (s : Session σ) (listener : σ) : Session σ :=
  if s.listeners.contains listener then s
  else { s with listeners := s.listeners ++ [listener] }

/-- What a session makes of a signal: a frame is stamped with the identifier that it completes, and
the fault of a read without answer carries the last frame. -/
def hear (s : Session σ) : Signal → Event × Session σ
  | .frame f =>
    let identifier := s.identifier.learn f
    (.frame ⟨identifier, f.mode, f⟩, { s with identifier, lastFrame := some f })
  | .error message =>
    let code := classify message
    (.fault ⟨s.identifier, code, message, if code = .readTimeout then s.lastFrame else none⟩, s)

def hearAll (s : Session σ) : List Signal → List Event × Session σ
  | [] => ([], s)
  | signal :: signals =>
    let (event, s) := s.hear signal
    let (events, s) := s.hearAll signals
    (event :: events, s)

/-- The calls that telling some events takes: each event goes to every listener. -/
def calls (s : Session σ) (events : List Event) : List (σ × Event) :=
  events.flatMap fun event => s.listeners.map fun listener => (listener, event)

/-- A stopped session has no listeners; what its source says while stopping is still heard. -/
def stop (s : Session σ) (lastWords : List Signal) : List Event × Session σ :=
  let (events, s) := s.hearAll lastWords
  (events, { s with listeners := [] })

def inspect (s : Session σ) : String :=
  Text.inspectRecord "TicSession"
    [("port", s.port.inspect), ("mode", s.mode.inspect), ("identifier", s.identifier.inspect),
      ("native", Text.inspectBool s.native), ("ephemeral", Text.inspectBool s.ephemeral)] true

end Session

end MeterHub
