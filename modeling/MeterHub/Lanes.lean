import MeterHub.Event
import MeterHub.Text.Inspect

/-!
Delivery lanes. Events reach a listener through a lane of its own: the lane opens with the first
event for a listener, keeps the events in order, and hands them over one by one. A closed lane takes
no further event but still hands over what it holds; a later event for its listener opens another
lane. A callback that panics costs nothing but its count.
-/

set_option autoImplicit false
set_option relaxedAutoImplicit false

namespace MeterHub

/-- A lane: its listener, whether it still takes events, whether anyone serves it, the event whose
callback is under way, and the events behind that one. -/
structure Lane (σ : Type) where
  listener : σ
  isOpen : Bool
  served : Bool
  current : Option Event
  queue : List Event
deriving DecidableEq

namespace Lane

variable {σ : Type}

def isIdle (lane : Lane σ) : Bool := lane.current.isNone && lane.queue.isEmpty

/-- Whether a lane is still of use. -/
def isKept (lane : Lane σ) : Bool := lane.isOpen || !lane.isIdle

/-- Whether the events of a listener go into a lane. -/
def serves [DecidableEq σ] (lane : Lane σ) (listener : σ) : Bool :=
  lane.isOpen && lane.listener == listener

def push (lane : Lane σ) (event : Event) : Lane σ := { lane with queue := lane.queue ++ [event] }

def shut (lane : Lane σ) : Lane σ := { lane with isOpen := false }

/-- The event that a lane can take up next: none while a callback is under way. -/
def next? (lane : Lane σ) : Option Event := if lane.current.isNone then lane.queue.head? else none

/-- The next event of a lane comes under way, unless another one is. -/
def take (lane : Lane σ) : Lane σ :=
  match lane.current, lane.queue with
  | none, event :: queue => { lane with current := some event, queue }
  | _, _ => lane

def done (lane : Lane σ) : Lane σ := { lane with current := none }

/-- The events that a lane is yet to be done with, in order. -/
def held (lane : Lane σ) : List Event := lane.current.toList ++ lane.queue

end Lane

/-- Counts of finished callbacks by kind, of those that panicked, and of events that no one will
ever be handed. -/
structure Counters where
  frames : Nat := 0
  faults : Nat := 0
  panics : Nat := 0
  dropped : Nat := 0
deriving DecidableEq

def Counters.finish (c : Counters) (event : Event) (panicked : Bool) : Counters :=
  { c with
    frames := if event.isFrame then c.frames + 1 else c.frames
    faults := if event.isFrame then c.faults else c.faults + 1
    panics := if panicked then c.panics + 1 else c.panics }

/-- All lanes in the order in which they opened, closed ones only as long as they hold something.
Lanes that open while nothing is accepted are served by no one. -/
structure Lanes (σ : Type) where
  lanes : List (Lane σ) := []
  accepting : Bool := true
  counters : Counters := {}
deriving DecidableEq

namespace Lanes

variable {σ : Type} [DecidableEq σ]

def openListeners (l : Lanes σ) : List σ := (l.lanes.filter (·.isOpen)).map (·.listener)

def openCount (l : Lanes σ) : Nat := l.openListeners.length

/-- Queues an event for a listener. In a lane that no one serves, the opening event is lost without
a trace and every further one is counted as dropped. -/
def deliver (l : Lanes σ) (listener : σ) (event : Event) : Lanes σ :=
  match l.lanes.find? (·.serves listener) with
  | some lane =>
    if lane.served then
      { l with
        lanes := l.lanes.map fun lane => if lane.serves listener then lane.push event else lane }
    else { l with counters := { l.counters with dropped := l.counters.dropped + 1 } }
  | none =>
    { l with
      lanes := l.lanes ++
        [⟨listener, true, l.accepting, none, if l.accepting then [event] else []⟩] }

def deliverAll (l : Lanes σ) (event : Event) : List σ → Lanes σ
  | [] => l
  | listener :: listeners => (l.deliver listener event).deliverAll event listeners

def close (l : Lanes σ) (listener : σ) : Lanes σ :=
  { l with
    lanes := (l.lanes.map fun lane =>
      if lane.listener = listener then lane.shut else lane).filter (·.isKept) }

def closeAll (l : Lanes σ) : Lanes σ :=
  { l with lanes := (l.lanes.map (·.shut)).filter (·.isKept) }

/-- From now on no lane that opens is served. -/
def refuse (l : Lanes σ) : Lanes σ := { l with accepting := false }

/-- The listener and the event that the lane at an index can take up next. -/
def next? (l : Lanes σ) (index : Nat) : Option (σ × Event) :=
  l.lanes[index]?.bind fun lane => lane.next?.map fun event => (lane.listener, event)

def take (l : Lanes σ) (index : Nat) : Lanes σ := { l with lanes := l.lanes.modify index Lane.take }

def finish (l : Lanes σ) (index : Nat) (panicked : Bool) : Lanes σ :=
  match l.lanes[index]?.bind Lane.current with
  | some event =>
    { l with
      lanes := (l.lanes.modify index Lane.done).filter (·.isKept)
      counters := l.counters.finish event panicked }
  | none => l

/-- The index of the first lane that can hand over an event to a listener who is not on hold. -/
def ready? (l : Lanes σ) (onHold : σ → Bool) : Option Nat :=
  l.lanes.findIdx? fun lane => lane.next?.isSome && !onHold lane.listener

def pending (l : Lanes σ) : Nat := (l.lanes.flatMap fun lane => lane.held).length

end Lanes

structure DeliveryStats where
  framesDelivered : Nat := 0
  faultsDelivered : Nat := 0
  listenerPanics : Nat := 0
  dropped : Nat := 0
  openLanes : Nat := 0
deriving DecidableEq

def Lanes.stats {σ : Type} (l : Lanes σ) : DeliveryStats :=
  ⟨l.counters.frames, l.counters.faults, l.counters.panics, l.counters.dropped,
    (l.lanes.filter (·.isOpen)).length⟩

def DeliveryStats.inspect (s : DeliveryStats) : String :=
  Text.inspectRecord "DispatchStats"
    [("frames_delivered", toString s.framesDelivered),
      ("faults_delivered", toString s.faultsDelivered),
      ("listener_panics", toString s.listenerPanics), ("dropped", toString s.dropped),
      ("open_lanes", toString s.openLanes)] false

def Lanes.inspect {σ : Type} (l : Lanes σ) : String :=
  Text.inspectRecord "Dispatcher"
    [("lanes", toString l.stats.openLanes), ("stats", l.stats.inspect)] true

end MeterHub
