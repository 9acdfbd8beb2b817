import MeterHub.Bench.Recorder
import MeterHub.Lanes

/-!
A bench for delivery lanes: events are queued by hand, and after each action every lane hands over
what it holds, unless its listener is on hold.
-/

set_option autoImplicit false
set_option relaxedAutoImplicit false

namespace MeterHub.Bench

/-- A bench: the lanes, their listeners, and which of those are on hold. -/
structure LaneBench where
  lanes : Lanes String := {}
  crowd : Crowd
  onHold : List String := []

namespace LaneBench

inductive Action
  | deliver (name : String) (events : List Event)
  | close (name : String)
  | closeAll
  | hold (name : String)
  | release (name : String)
  | refuse
  | inspect

def waits (b : LaneBench) (name : String) : Bool :=
  b.onHold.contains name && b.crowd.canWait name

def handOver (b : LaneBench) (index : Nat) : LaneBench :=
  match b.lanes.next? index with
  | some (name, event) =>
    { b with
      lanes := (b.lanes.take index).finish index (b.crowd.panics name event)
      crowd := b.crowd.hear name event }
  | none => b

/-- Hands over events as long as a lane is ready, at most as often as told. -/
def serve : Nat → LaneBench → LaneBench
  | 0, b => b
  | fuel + 1, b =>
    match b.lanes.ready? b.waits with
    | some index => serve fuel (b.handOver index)
    | none => b

def settle (b : LaneBench) : LaneBench := serve b.lanes.pending b

/-- One action, before anything is handed over. The answer is a text for an inspection only. -/
def act (b : LaneBench) : Action → Option String × LaneBench
  | .deliver name events =>
    (none, { b with lanes := events.foldl (Lanes.deliver · name ·) b.lanes })
  | .close name => (none, { b with lanes := b.lanes.close name })
  | .closeAll => (none, { b with lanes := b.lanes.closeAll })
  | .hold name => (none, { b with onHold := b.onHold ++ [name] })
  | .release name => (none, { b with onHold := b.onHold.filter (· != name) })
  | .refuse => (none, { b with lanes := b.lanes.refuse })
  | .inspect => (some b.lanes.inspect, b)

def run : LaneBench → List Action → List (Option String × LaneBench)
  | _, [] => []
  | b, action :: actions =>
    let (answer, after) := b.act action
    let after := after.settle
    (answer, after) :: run { after with crowd := after.crowd.asked } actions

end LaneBench

end MeterHub.Bench
