import MeterHub.Hub.Subscriptions

/-!
Reads of the next frame. A read is a subscriber of its own until it has an answer or its time is
over. A session that was opened for reads is closed by the last of them, unless someone else needs
it.
-/

set_option autoImplicit false
set_option relaxedAutoImplicit false

namespace MeterHub.Read

/-- The first event that a read is handed is its answer. -/
def hear (read : Read) (event : Event) : Read :=
  match read.answer, read.result with
  | none, none => { read with answer := some event }
  | _, _ => read

/-- How a read ends by its answer; without one its time is over. The channel of a read is never
closed before, which would be a third case: the read itself holds the listener with the sender until
its end, and the sender is taken from the listener only to send. -/
def outcome (read : Read) : Except Failure Capture :=
  match read.answer with
  | some (.frame capture) => .ok capture
  | some (.fault f) => .error (.fault f)
  | none => .error (.readTimeout read.key read.timeout)

def isPending (read : Read) : Bool := read.result.isNone

end MeterHub.Read

namespace MeterHub.Hub

/-- Begins a read. It waits for the configured time unless another one is given. A read that cannot
be served ends at once. -/
def beginRead (h : Hub) (site : Site) (key : Identifier) (timeout : Option Span) : Hub :=
  let read : Read := { key, timeout := timeout.getD h.config.readTimeout }
  match h.attach site key (.reader h.reads.length) with
  | (.error failure, h) =>
    { h with reads := h.reads ++ [{ read with result := some (.error failure) }] }
  | (.ok opened, h) =>
    let h := { h with reads := h.reads ++ [read] }
    match opened with
    | some index => h.markEphemeral index
    | none => h

/-- Begins a read that breaks down while discovery is asked for its port. It has ended with the
failure, but nobody is left to take back its entry. -/
def strandRead (h : Hub) (key : Identifier) (timeout : Option Span) (failure : Failure) : Hub :=
  let read : Read :=
    { key, timeout := timeout.getD h.config.readTimeout, result := some (.error failure) }
  { h with
    registry := (h.registry.subscribeTo key (.reader h.reads.length)).2
    lookups := h.lookups ++ (Request.ofIdentifier key h.config.defaultMode).lookup?.toList
    reads := h.reads ++ [read] }

/-- Ends a read: by its answer if it has one, else because its time is over. -/
def endRead (h : Hub) (index : Nat) : Hub :=
  match h.reads[index]? with
  | some read =>
    if read.isPending then
      let h := { h with registry := (h.registry.unsubscribeFrom read.key (.reader index)).2 }
      let h := (h.closeLane (.reader index)).release read.key true
      { h with
        reads := h.reads.set index { read with result := some read.outcome } }
    else h
  | none => h

end MeterHub.Hub
