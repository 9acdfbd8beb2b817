import MeterHub.Bench.Recorder
import MeterHub.Session.Rounds

/-!
A bench for one session. Its source is driven by hand, and whoever was handed the way back into the
session can use it after the source was stopped.
-/

set_option autoImplicit false
set_option relaxedAutoImplicit false

namespace MeterHub.Bench

/-- A bench: the session unless it was dropped, its source, whether the source ever started and so
was handed the way into the session, and the listeners. -/
structure SessionBench where
  session : Option (Session String)
  source : Source
  handedOut : Bool := false
  crowd : Crowd

namespace SessionBench

inductive Action
  | listen (name : String)
  | start
  | stop
  | markNative
  | markEphemeral
  | drop
  /-- The source says something, if it is running. -/
  | say (signal : Signal)
  /-- Something is said behind the back of the source. -/
  | slip (signal : Signal)
  | inspectSession
  | inspectSource

inductive Answer
  | nothing
  | flag (b : Bool)
  | failure (failure : Failure)
  | text (s : String)
  /-- The source as it shows itself, its port, and whether it is running. -/
  | source (inspection : String) (port : Port) (running : Bool)

/-- The session goes through some acts, and whoever it calls hears the event. -/
def go (b : SessionBench) (session : Session String) (acts : List (Session.Act String)) :
    SessionBench :=
  let (calls, busy) := Session.Busy.run ⟨session, []⟩ acts
  { b with
    session := some busy.session
    crowd := calls.foldl (fun crowd call => crowd.hear call.listener call.event) b.crowd }

/-- The acts of signals to a session that is otherwise left alone. -/
def telling (session : Session String) (signals : List Signal) : List (Session.Act String) :=
  Session.undisturbed session.listeners.length 0 signals

def hear (b : SessionBench) (signal : Signal) : SessionBench :=
  match b.session with
  | none => b
  | some session => b.go session (telling session [signal])

/-- An action that changes nothing but the session. -/
def change (b : SessionBench) (f : Session String → Session String) : Answer × SessionBench :=
  (.nothing, { b with session := b.session.map f })

/-- Starting hands out the way into the session, unless the source fails to start. -/
def start (b : SessionBench) (session : Session String) : Answer × SessionBench :=
  let (result, greeting, source) := b.source.start
  let b := { b with source }.go session (telling session greeting)
  match result with
  | .ok () => (.nothing, { b with handedOut := true })
  | .error failure => (.failure failure, b)

/-- Stopping: the last words are heard, then nobody listens any more. -/
def stop (b : SessionBench) (session : Session String) : Answer × SessionBench :=
  let (lastWords, source) := b.source.stop
  (.nothing, { b with source }.go session (telling session lastWords ++ [Session.Act.stop]))

def act (b : SessionBench) : Action → Answer × SessionBench
  | .listen name => b.change fun session => session.listen name
  | .start =>
    match b.session with
    | some session => b.start session
    | none => (.nothing, b)
  | .stop =>
    match b.session with
    | some session => b.stop session
    | none => (.nothing, b)
  | .markNative => b.change fun session => { session with native := true }
  | .markEphemeral => b.change fun session => { session with ephemeral := true }
  | .drop => (.nothing, { b with session := none })
  | .say signal => if b.source.running then (.flag true, b.hear signal) else (.flag false, b)
  | .slip signal => if b.handedOut then (.flag true, b.hear signal) else (.flag false, b)
  | .inspectSession =>
    match b.session with
    | some session => (.text session.inspect, b)
    | none => (.nothing, b)
  | .inspectSource => (.source b.source.inspect b.source.port b.source.running, b)

def run : SessionBench → List Action → List (Answer × SessionBench)
  | _, [] => []
  | b, action :: actions =>
    let (answer, after) := b.act action
    (answer, after) :: run { after with crowd := after.crowd.asked } actions

/-- The ways in which a source on a bench can be made to behave. -/
structure Temper where
  /-- Starting fails on ports of these names. -/
  failsStart : List String := []
  /-- Opening fails on ports of these names. -/
  failsOpen : List String := []
  /-- The error that is reported while stopping. -/
  lastWords : Option String := none

/-- What comes of opening a source of some temper. One that fails to start says nothing at all. -/
def Temper.opening (t : Temper) : Opening := fun port _ =>
  if t.failsOpen.contains port.name then .error (.transport port.name "no transport")
  else if t.failsStart.contains port.name then
    .ok { start := .error (.transport port.name "port busy") }
  else .ok { lastWords := t.lastWords.toList.map .error }

def ofOpened (crowd : Crowd) (opened : Session String × Source) : SessionBench :=
  { session := some opened.1, source := opened.2, crowd }

def onPort (port : Port) (mode : Option Mode) (temper : Temper) (crowd : Crowd) :
    Except Failure SessionBench :=
  (Session.openPort port mode temper.opening).map (ofOpened crowd)

def onRequest (request : Request) (d : Discovery) (temper : Temper) (crowd : Crowd) :
    Except Failure SessionBench :=
  (Session.openRequest request d temper.opening).map (ofOpened crowd)

end SessionBench

end MeterHub.Bench
