import MeterHub.Hub.Sessions

/-!
Devices that come and go. A device that is plugged is acquired; when it is unplugged its sessions
close, and a notice is left for everyone who wants to hear about it.
-/

set_option autoImplicit false
set_option relaxedAutoImplicit false

namespace MeterHub.Hub

/-- A device was plugged. One that was found by polling is left alone once the hub has stopped. -/
def appeared (h : Hub) (site : Site) (port : Port) (polled : Bool) : Except Failure Unit × Hub :=
  if polled && !h.running then (.ok (), h)
  else
    match h.openPort site.opening port with
    | (.ok _, h) => (.ok (), h)
    | (.error failure, h) => (.error failure, h)

/-- A device was unplugged: the sessions on its port close, and each leaves a notice. -/
def disappeared (h : Hub) (port : Port) : Hub :=
  let gone := h.sessions.filter fun live => live.port.same port
  let kept := h.sessions.filter fun live => !live.port.same port
  let (identifiers, h) := { h with sessions := kept }.stopSessions gone
  { h with notices := h.notices ++ identifiers }

/-- A change that polling has found. -/
def handle (h : Hub) (site : Site) : Presence → Hub
  | .appeared port => (h.appeared site port true).2
  | .disappeared port => h.disappeared port

/-- The announcement of an unplugged device under way: the hub, the keys that were removed, and the
subscribers that have no entry left. -/
structure Announcement where
  hub : Hub
  released : List Identifier := []
  detached : List Subscriber := []

/-- Tells one subscriber that a device was unplugged, and removes its entry without a filter and its
filters on the device. -/
def Announcement.tell (i : Identifier) (a : Announcement) (s : Subscriber) : Announcement :=
  let lanes := a.hub.lanes.deliver s (.fault (.unplugged i))
  let registry := (a.hub.registry.unsubscribeUnfiltered s).2
  let (keys, registry) := registry.unsubscribeMatching Identifier.agrees i s
  { hub := { a.hub with lanes, registry }
    released := a.released ++ keys
    detached := if registry.contains s then a.detached else a.detached ++ [s] }

/-- Tells everyone who wants to hear about a device that it was unplugged. They lose their entries
without a filter and their filters on the device; whoever has no entry left loses the lane, and
sessions that nobody needs any more close. -/
def announce (h : Hub) (i : Identifier) : Hub :=
  let a := (h.interest i).foldl (Announcement.tell i) { hub := h }
  let h := a.detached.foldl closeLane a.hub
  h.releaseAll a.released

def notify (h : Hub) (index : Nat) : Hub :=
  match h.notices[index]? with
  | some i => { h with notices := h.notices.eraseIdx index }.announce i
  | none => h

end MeterHub.Hub
