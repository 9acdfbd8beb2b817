import MeterHub.Hub.Sessions

/-!
Subscriptions. A subscription to an identifier opens a session if none serves it, and a subscription
that is given up closes the sessions that nobody else needs.
-/

set_option autoImplicit false
set_option relaxedAutoImplicit false

namespace MeterHub.Hub

def subscribe (h : Hub) (s : Subscriber) : Hub :=
  { h with registry := (h.registry.subscribe s).2 }

/-- Removes every entry of a subscriber, and its lane. -/
def unsubscribe (h : Hub) (s : Subscriber) : Hub :=
  let keys := h.registry.keysOf s
  ({ h with registry := (h.registry.unsubscribe s).2 }.releaseAll keys).closeLane s

/-- Enters a subscriber under an identifier and makes sure that a session serves it. The answer is
the source of the session if this call opened it. When no session can be had, an entry that this
call made is removed again. -/
def attach (h : Hub) (site : Site) (i : Identifier) (s : Subscriber) :
    Except Failure (Option Nat) × Hub :=
  let (added, registry) := h.registry.subscribeTo i s
  match { h with registry }.ensureSession site i with
  | (.ok (index, opened), h) => (.ok (if opened then some index else none), h)
  | (.error failure, h) =>
    if added then
      let h := { h with registry := (h.registry.unsubscribeFrom i s).2 }
      (.error failure, if h.registry.contains s then h else h.closeLane s)
    else (.error failure, h)

def subscribeTo (h : Hub) (site : Site) (i : Identifier) (s : Subscriber) :
    Except Failure Unit × Hub :=
  match h.attach site i s with
  | (.ok _, h) => (.ok (), h)
  | (.error failure, h) => (.error failure, h)

/-- Gives up the subscription to an identifier. A subscriber without any entry left loses its
lane. -/
def unsubscribeFrom (h : Hub) (i : Identifier) (s : Subscriber) : Hub :=
  let h := { h with registry := (h.registry.unsubscribeFrom i s).2 }
  let subscribed := h.registry.contains s
  let h := h.release i false
  if subscribed then h else h.closeLane s

end MeterHub.Hub
