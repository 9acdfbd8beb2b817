import MeterHub.Hub.State

/-!
Routing: the events of sessions go to everyone who wants to hear about the stream, by the identifier
that the event carries.
-/

set_option autoImplicit false
set_option relaxedAutoImplicit false

namespace MeterHub.Hub

/-- Queues an event for everyone who wants to hear about its stream. -/
def route (h : Hub) (event : Event) : Hub :=
  { h with lanes := h.lanes.deliverAll event (h.interest event.identifier) }

def routeAll (h : Hub) : List Event → Hub
  | [] => h
  | event :: events => (h.route event).routeAll events

/-- Routes what a session tells its listeners, of which the hub is one. -/
def publish (h : Hub) (session : Session Relay) (events : List Event) : Hub :=
  h.routeAll ((session.calls events).map (·.2))

/-- A source says something. Only a live session listens to its source. -/
def report (h : Hub) (index : Nat) (signal : Signal) : Hub :=
  match h.sessions.find? fun live => live.source == index with
  | some live =>
    let (event, session) := live.session.hear signal
    (h.modifySession index fun _ => session).publish session [event]
  | none => h

end MeterHub.Hub
