import MeterHub.Hub.Devices
import MeterHub.Hub.Reads

/-!
The life of a hub. A running hub polls for devices and keeps its native ports open. Stopping it
closes every session, drops every subscriber and lets the lanes hand over what they hold.
-/

set_option autoImplicit false
set_option relaxedAutoImplicit false

namespace MeterHub.Hub

/-- Opens the session of a native port. A port that is not there or cannot be opened is left out. -/
def openNative (site : Site) (h : Hub) (name : String) : Hub :=
  let h := { h with lookups := h.lookups ++ [.native name] }
  match site.discovery.native name with
  | none => h
  | some port =>
    match h.openPort site.opening port with
    | (.ok (index, _), h) => h.markNative index
    | (.error _, h) => h

/-- Starts a hub: its native ports are opened in order, and polling begins. -/
def start (h : Hub) (site : Site) : Hub :=
  if h.running then h
  else
    let h := h.config.nativePorts.foldl (openNative site) { h with running := true }
    { h with poller := some {} }

/-- Stops a hub. What sources say while they are stopped still reaches the subscribers. -/
def stop (h : Hub) : Hub :=
  if h.running then
    let lives := h.sessions
    let h := ({ h with running := false, poller := none, sessions := [] }.stopSessions lives).2
    { h with registry := {}, lanes := h.lanes.closeAll }
  else h

/-- The poller of a running hub takes an enumeration into account. -/
def poll (h : Hub) (ports : Except Failure (List Port)) : Hub :=
  { h with poller := h.poller.map fun poller => poller.poll ports }

def refill (h : Hub) : Hub := { h with poller := h.poller.map Poller.refill }

/-- Handles the first change in the queue of the poller. -/
def consume (h : Hub) (site : Site) : Hub :=
  match h.poller with
  | none => h
  | some poller =>
    match poller.take 1 with
    | (change :: _, poller) => { h with poller := some poller }.handle site change
    | ([], _) => h

/-- Stops the source of a session that nobody listens to any more. -/
def silence (sources : List Source) (live : Live) : List Source :=
  sources.modify live.source fun source => source.stop.2

/-- Gives up a hub: its sources stop, and nobody hears what they say meanwhile. The lanes hand over
what they hold. -/
def discard (h : Hub) : Hub :=
  { h with
    sources := h.sessions.foldl silence h.sources
    sessions := []
    registry := {}
    lanes := h.lanes.closeAll
    running := false
    poller := none }

end MeterHub.Hub
