import MeterHub.Bench.Recorder
import MeterHub.Discovery.Board
import MeterHub.Hub.Move
import MeterHub.Time.Alarm
import MeterHub.Time.Ticker

/-!
A bench for a hub. Ports are plugged and sources driven by hand, the clock is moved by hand, and
after each action all background work is done in a fixed order: lanes hand over what they hold, then
tasks run one by one in the order in which they came up. When nothing is left to do, the alarms that
have gone off bring up their tasks: a read whose time is over ends, and the poller serves a tick by
asking for an enumeration. What it is answered comes in last of all.
-/

set_option autoImplicit false
set_option relaxedAutoImplicit false

namespace MeterHub.Bench

/-- Background work that has come up. -/
inductive Task
  | beginRead (name : String) (key : Identifier) (timeout : Option Span)
  | endRead (index : Nat)
  /-- The oldest notice of an unplugged device is announced. -/
  | notify
  /-- The poller serves a tick that is due: it asks for an enumeration. -/
  | tick
  /-- The changes in the queue of the poller are handled. -/
  | consume
deriving DecidableEq

def Task.needsHub : Task → Bool
  | .tick | .consume => false
  | _ => true

/-- How sources behave that are opened from now on, by the names of their ports. -/
structure Tempers where
  failsStart : List String := []
  failsOpen : List String := []
  eager : List (String × Frame) := []
  lastWords : List (String × String) := []

def Tempers.opening (t : Tempers) : Opening := fun port _ =>
  if t.failsOpen.contains port.name then .error (.transport port.name "no transport")
  else if t.failsStart.contains port.name then
    .ok { start := .error (.transport port.name "port busy") }
  else
    .ok
      { greeting := (t.eager.lookup port.name).toList.map .frame
        lastWords := (t.lastWords.lookup port.name).toList.map .error }

/-- A bench: a hub with all that surrounds it. The reads have names and alarms, by index. The hub is
attached as long as the caller holds it; it lives on as long as background work needs it. -/
structure HubBench where
  hub : Hub
  board : PortBoard
  crowd : Crowd
  tempers : Tempers := {}
  onHold : List String := []
  clock : Nat := 0
  ticker : Option Ticker := none
  tasks : List Task := []
  readNames : List String := []
  readAlarms : List Alarm := []
  /-- The rank of the alarm for the next tick. -/
  tickRank : Nat := 0
  /-- What the poller is answered to the enumeration that it waits for. -/
  listing : Option (Except Failure (List Port)) := none
  /-- The number of alarms that were ever set. -/
  alarmCount : Nat := 0
  /-- The reads that ended since the last report. -/
  ended : List (String × Except Failure Capture) := []
  attached : Bool := true
  gone : Bool := false

namespace HubBench

def now (b : HubBench) : Nat := b.clock * 1000000

def site (b : HubBench) : Site := ⟨b.board.discovery, b.tempers.opening⟩

/-- The tasks once a poller may have come or gone: a new one serves its first tick, and one that is
gone serves none. -/
def tickTasks (tasks : List Task) (old new : Option Poller) : List Task :=
  match old, new with
  | none, some _ => tasks ++ [.tick]
  | _, none => tasks.filter (· != .tick)
  | some _, some _ => tasks

/-- The bench after the hub has changed. Questions to discovery are charged, each new notice comes
up as a task, a ticker is there exactly while there is a poller, and a poller that is gone waits for
nothing. -/
def withHub (b : HubBench) (hub : Hub) : HubBench :=
  { b with
    hub
    board := (hub.lookups.drop b.hub.lookups.length).foldl PortBoard.charge b.board
    tasks := tickTasks b.tasks b.hub.poller hub.poller ++
      List.replicate (hub.notices.length - b.hub.notices.length) Task.notify
    ticker := hub.poller.map fun _ =>
      b.ticker.getD { period := hub.config.pollInterval.toNanos }
    listing := hub.poller.bind fun _ => b.listing }

def move (b : HubBench) (m : Move) : HubBench := b.withHub (b.hub.move m)

/-- Gives up the hub once neither the caller nor any work needs it. -/
def giveUp (b : HubBench) : HubBench :=
  if b.attached || b.gone || b.tasks.any Task.needsHub || b.hub.isHeld then b
  else { b.move .discard with gone := true }

def waits (b : HubBench) : Subscriber → Bool
  | .listener name => b.onHold.contains name && b.crowd.canWait name
  | .reader _ => false

def tell (b : HubBench) (name : String) (event : Event) : HubBench :=
  let b := { b with crowd := b.crowd.hear name event }
  if b.crowd.leaves name && b.attached then b.move (.unsubscribe name) else b

/-- The lane at an index hands over its next event, and its callback ends. When the event is the
answer of a read, the end of the read comes up. -/
def handOver (b : HubBench) (index : Nat) : HubBench :=
  match b.hub.lanes.next? index with
  | some (.listener name, event) =>
    let panicked := b.crowd.panics name event
    ((b.move (.takeUp index)).move (.finish index panicked)).tell name event
  | some (.reader reader, _) =>
    let waiting := b.hub.reads[reader]?.any fun read => read.answer.isNone && read.isPending
    let b := (b.move (.takeUp index)).move (.finish index false)
    if waiting then { b with tasks := b.tasks ++ [.endRead reader] } else b
  | none => b

def endRead (b : HubBench) (index : Nat) : HubBench :=
  let pending := b.hub.reads[index]?.any Read.isPending
  let b := b.move (.endRead index)
  match pending, b.readNames[index]?, b.hub.reads[index]?.bind Read.result with
  | true, some name, some result => { b with ended := b.ended ++ [(name, result)] }
  | _, _, _ => b

/-- The hub after a read begins. Where discovery breaks down on being asked, the read strands. -/
def hubBeginningRead (b : HubBench) (key : Identifier) (timeout : Option Span) : Hub :=
  let hub := b.hub.move (.beginRead b.site key timeout)
  if b.board.panicking && b.hub.lookups.length < hub.lookups.length then
    b.hub.strandRead key timeout PortBoard.breakdown
  else hub

/-- Begins a read. One that cannot be served has ended, and one that waits no time ends at once. Of
one that is stranded nothing is heard any more. -/
def beginRead (b : HubBench) (name : String) (key : Identifier) (timeout : Option Span) :
    HubBench :=
  let index := b.hub.reads.length
  let span := timeout.getD b.hub.config.readTimeout
  let hub := b.hubBeginningRead key timeout
  let b :=
    { b.withHub hub with
      readNames := b.readNames ++ [name]
      readAlarms := b.readAlarms ++ [⟨b.now + span.toNanos, b.alarmCount⟩]
      alarmCount := b.alarmCount + 1 }
  match hub.reads[index]?.bind Read.result with
  | some result =>
    if hub.isSubscribed (.reader index) then b else { b with ended := b.ended ++ [(name, result)] }
  | none => if span.isZero then b.endRead index else b

def handleChanges : Nat → HubBench → HubBench
  | 0, b => b
  | count + 1, b => handleChanges count (b.move (.consume b.site))

def queued (b : HubBench) : Nat :=
  match b.hub.poller with
  | some poller => poller.queue.length
  | none => 0

/-- Handling of changes comes up if there are any. -/
def wakeConsumer (b : HubBench) : HubBench :=
  if b.queued = 0 || b.tasks.contains .consume then b
  else { b with tasks := b.tasks ++ [.consume] }

def isDue (b : HubBench) : Bool :=
  match b.ticker, b.hub.poller with
  | some ticker, some poller => ticker.isDue b.now && !poller.isBlocked && b.listing.isNone
  | _, _ => false

/-- The poller serves a tick if one is due. The enumeration counts at once, whether or not anyone
still waits for its answer when that comes in. -/
def tick (b : HubBench) : HubBench :=
  if b.isDue then
    { b with
      ticker := b.ticker.map fun (ticker : Ticker) => ticker.tick b.now
      board := b.board.count
      listing := some b.board.enumeration }
  else b

/-- The poller turns to its next tick: it serves the tick if that is due already, and sets its alarm
for it if not. -/
def awaitTick (b : HubBench) : HubBench :=
  if b.isDue then b.tick
  else { b with tickRank := b.alarmCount, alarmCount := b.alarmCount + 1 }

def receive (b : HubBench) (ports : Except Failure (List Port)) : HubBench :=
  ({ b with listing := none }.move (.poll ports)).wakeConsumer.awaitTick

/-- Handles the changes in the queue of the poller, which then goes on if they had kept it. -/
def consume (b : HubBench) : HubBench :=
  let wasBlocked := b.hub.poller.any Poller.isBlocked
  let b := ((handleChanges b.queued b).move .refill).wakeConsumer
  if wasBlocked then b.awaitTick else b

def perform (b : HubBench) : Task → HubBench
  | .beginRead name key timeout => b.beginRead name key timeout
  | .endRead index => b.endRead index
  | .notify => b.move (.notify 0)
  | .tick => b.tick
  | .consume => b.consume

def alarms (b : HubBench) : List (Alarm × Task) :=
  let reads := b.readAlarms.zipIdx.filter fun entry =>
    b.hub.reads[entry.2]?.any Read.isPending
  let ticks := if b.isDue then (b.ticker.bind Ticker.due).toList else []
  reads.map (fun entry => (entry.1, .endRead entry.2)) ++
    ticks.map fun due => (⟨due, b.tickRank⟩, .tick)

/-- The tasks whose alarms have gone off, in the order in which they did. -/
def expired (b : HubBench) : List Task :=
  let late := b.alarms.filter fun entry => entry.1.due ≤ b.now
  (late.mergeSort fun x y => x.1.goesBefore y.1).map (·.2)

/-- One piece of background work, if there is any. -/
def work? (b : HubBench) : Option HubBench :=
  match b.hub.lanes.ready? b.waits, b.tasks with
  | some index, _ => some (b.handOver index)
  | none, task :: tasks => some ({ b with tasks }.perform task).giveUp
  | none, [] =>
    match b.expired, b.listing with
    | [], none => none
    | [], some ports => some (b.receive ports)
    | tasks, _ => some { b with tasks }

/-- Does background work as long as there is any, at most as often as told. -/
def serve : Nat → HubBench → HubBench
  | 0, b => b
  | fuel + 1, b =>
    match b.work? with
    | some b => serve fuel b
    | none => b

/-- A bound for the pieces of work that an action can bring up. Each tick finds at most as many
changes as there are ports, and each change tells everyone a few times. -/
def effort (b : HubBench) : Nat :=
  let ticks := match b.ticker with
    | some ticker => Ticker.tolerance / ticker.period + 3
    | none => 1
  let changes := b.board.ports.length + b.hub.sessions.length + b.hub.sources.length + b.queued +
    b.tasks.length + b.hub.notices.length + 2
  let audience := b.crowd.length + b.hub.reads.length + b.tasks.length + 2
  b.hub.lanes.pending + 8 * ticks * changes * changes * audience

def settle (b : HubBench) : HubBench := serve b.effort b

inductive Action
  | start
  | stop
  | subscribe (name : String)
  | unsubscribe (name : String)
  | subscribeTo (name : String) (key : Identifier)
  | unsubscribeFrom (name : String) (key : Identifier)
  | appeared (port : Port)
  | disappeared (port : Port)
  | inspect
  | read (name : String) (key : Identifier) (timeout : Option Span)
  | drop
  | plug (port : Port)
  | unplug (name : String)
  | addNative (port : Port)
  | fail (on : Bool)
  | panic (on : Bool)
  | failStart (name : String)
  | failOpen (name : String)
  | allowOpen (name : String)
  | eager (name : String) (frame : Frame)
  | lastWords (name message : String)
  /-- The latest source on a port says something, if it is running. -/
  | say (name : String) (signal : Signal)
  | advance (millis : Nat)
  | hold (name : String)
  | release (name : String)
  | rest
  /-- Actions without any background work between them. -/
  | batch (actions : List Action)

inductive Answer
  | nothing
  /-- The caller holds the hub no longer. -/
  | dropped
  | flag (b : Bool)
  | port (port : Option Port)
  | failure (failure : Failure)
  | text (s : String)
  | list (answers : List Answer)

def outcome : Except Failure Unit → Answer
  | .ok () => .nothing
  | .error failure => .failure failure

def latest? (sources : List Source) (name : String) : Option Nat :=
  ((sources.zipIdx.filter fun entry => entry.1.port.name == name).getLast?).map (·.2)

/-- An operation on the hub, which only its holder can ask for. -/
def ask (b : HubBench) (operation : HubBench → Answer × HubBench) : Answer × HubBench :=
  if b.attached then operation b else (.dropped, b)

/-- A move that the holder of the hub asks for and that has no answer. -/
def request (b : HubBench) (m : Move) : Answer × HubBench := b.ask fun b => (.nothing, b.move m)

def attempt (b : HubBench) (operation : Hub → Except Failure Unit × Hub) : Answer × HubBench :=
  b.ask fun b =>
    let (result, hub) := operation b.hub
    (outcome result, b.withHub hub)

/-- The latest source on a port says something; no answer if there is none. -/
def say (b : HubBench) (name : String) (signal : Signal) : Answer × HubBench :=
  match latest? b.hub.sources name with
  | none => (.nothing, b)
  | some index =>
    if b.hub.sources[index]?.any Source.running then
      (.flag true, b.move (.report index signal))
    else (.flag false, b)

mutual

/-- One action with its answer, before any background work. -/
def act (b : HubBench) : Action → Answer × HubBench
  | .start => b.request (.start b.site)
  | .stop => b.request .stop
  | .subscribe name => b.request (.subscribe name)
  | .unsubscribe name => b.request (.unsubscribe name)
  | .subscribeTo name key => b.attempt fun hub => hub.subscribeTo b.site key (.listener name)
  | .unsubscribeFrom name key => b.request (.unsubscribeFrom key name)
  | .appeared port => b.attempt fun hub => hub.appeared b.site port false
  | .disappeared port => b.request (.disappeared port)
  | .inspect => b.ask fun b => (.text b.hub.inspect, b)
  | .read name key timeout =>
    b.ask fun b => (.nothing, { b with tasks := b.tasks ++ [.beginRead name key timeout] })
  | .drop => (.nothing, { b with attached := false }.giveUp)
  | .plug port => (.nothing, { b with board := b.board.plug port })
  | .unplug name =>
    let (port, board) := b.board.unplug name
    (.port port, { b with board })
  | .addNative port =>
    (.nothing, { b with board := { b.board with native := b.board.native ++ [port] } })
  | .fail on => (.nothing, { b with board := { b.board with failing := on } })
  | .panic on => (.nothing, { b with board := { b.board with panicking := on } })
  | .failStart name =>
    (.nothing,
      { b with tempers := { b.tempers with failsStart := name :: b.tempers.failsStart } })
  | .failOpen name =>
    (.nothing, { b with tempers := { b.tempers with failsOpen := name :: b.tempers.failsOpen } })
  | .allowOpen name =>
    (.nothing,
      { b with
        tempers := { b.tempers with failsOpen := b.tempers.failsOpen.filter (· != name) } })
  | .eager name frame =>
    (.nothing, { b with tempers := { b.tempers with eager := (name, frame) :: b.tempers.eager } })
  | .lastWords name message =>
    (.nothing,
      { b with tempers := { b.tempers with lastWords := (name, message) :: b.tempers.lastWords } })
  | .say name signal => b.say name signal
  | .advance millis => (.nothing, { b with clock := b.clock + millis })
  | .hold name => (.nothing, { b with onHold := b.onHold ++ [name] })
  | .release name => (.nothing, { b with onHold := b.onHold.filter (· != name) })
  | .rest => (.nothing, b)
  | .batch actions =>
    let (answers, b) := b.actAll actions
    (.list answers, b)

def actAll (b : HubBench) : List Action → List Answer × HubBench
  | [] => ([], b)
  | action :: actions =>
    let (answer, b) := b.act action
    let (answers, b) := b.actAll actions
    (answer :: answers, b)

end

/-- Actions in order, each with its answer and the bench that it leaves once all background work is
done. -/
def run : HubBench → List Action → List (Answer × HubBench)
  | _, [] => []
  | b, action :: actions =>
    let (answer, after) := b.act action
    let after := after.settle
    (answer, after) :: run { after with crowd := after.crowd.asked, ended := [] } actions

/-- The sources of a port name: how many were opened, and the latest one. -/
structure SourceReport where
  name : String
  opens : Nat
  latest : Source

/-- The sources by port name, in the order in which the names first occurred. -/
def sourceReports (sources : List Source) : List SourceReport :=
  (Distinct.ofList (sources.map (·.port.name))).filterMap fun name =>
    let opened := sources.filter fun source => source.port.name == name
    opened.getLast?.map fun latest => ⟨name, opened.length, latest⟩

def runningCount (b : HubBench) : Nat := (b.hub.sources.filter (·.running)).length

end HubBench

end MeterHub.Bench
