import MeterHub.Hub.Reads

/-!
Delivery: the lanes of a hub hand over what they hold. A read takes the first event that it is
handed as its answer; what a listener does with an event is its own affair.
-/

set_option autoImplicit false
set_option relaxedAutoImplicit false

namespace MeterHub.Hub

def hand (h : Hub) (s : Subscriber) (event : Event) : Hub :=
  match s with
  | .listener _ => h
  | .reader index => { h with reads := h.reads.modify index fun read => read.hear event }

/-- The lane at an index takes up its next event, which is handed to its subscriber. -/
def takeUp (h : Hub) (index : Nat) : Hub :=
  match h.lanes.next? index with
  | some (s, event) => { h with lanes := h.lanes.take index }.hand s event
  | none => h

def finish (h : Hub) (index : Nat) (panicked : Bool) : Hub :=
  { h with lanes := h.lanes.finish index panicked }

end MeterHub.Hub
