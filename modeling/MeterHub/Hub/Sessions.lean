import MeterHub.Hub.Routing

/-!
Opening and closing sessions. No port is acquired twice: a session is opened only where none holds
the port already. A session is closed when nobody needs it any more, unless it is native.
-/

set_option autoImplicit false
set_option relaxedAutoImplicit false

namespace MeterHub.Hub

/-- Stops a session that is no longer listed; what its source says meanwhile is still routed. The
answer is the identifier that the session knew at the end. -/
def stopSession (h : Hub) (live : Live) : Identifier × Hub :=
  match h.sources[live.source]? with
  | none => (live.identifier, h)
  | some source =>
    let (lastWords, source) := source.stop
    let (events, session) := live.session.stop lastWords
    (session.identifier,
      { h with sources := h.sources.set live.source source }.publish live.session events)

def stopSessions (h : Hub) : List Live → List Identifier × Hub
  | [] => ([], h)
  | live :: lives =>
    let (identifier, h) := h.stopSession live
    let (identifiers, h) := h.stopSessions lives
    (identifier :: identifiers, h)

/-- Enters a source that was opened into the ledger. -/
def enter (h : Hub) (source : Source) : Hub := { h with sources := h.sources ++ [source] }

/-- Opens and starts a session on a port, unless a live one holds it. The answer is the source of
the session and whether this call opened it. A session whose start fails is stopped at once. -/
def openPort (h : Hub) (opening : Opening) (port : Port) : Except Failure (Nat × Bool) × Hub :=
  match h.sessions.find? fun live => live.port.same port with
  | some live => (.ok (live.source, false), h)
  | none =>
    match (Session.openPort port h.config.defaultMode opening :
        Except Failure (Session Relay × Source)) with
    | .error failure => (.error failure, h)
    | .ok (session, source) =>
      let session := { session with native := h.config.isNativePort port.name }.listen .hub
      let (result, greeting, source) := source.start
      let (events, heard) := session.hearAll greeting
      let live : Live := ⟨h.sources.length, heard⟩
      let h := (h.enter source).publish session events
      match result with
      | .error failure => (.error failure, (h.stopSession live).2)
      | .ok () => (.ok (live.source, true), { h with sessions := h.sessions ++ [live] })

/-- Finds a live session for an identifier, or opens one on the port that the identifier resolves
to. -/
def ensureSession (h : Hub) (site : Site) (i : Identifier) :
    Except Failure (Nat × Bool) × Hub :=
  match h.sessions.find? fun live => i.agrees live.identifier with
  | some live => (.ok (live.source, false), h)
  | none =>
    let request := Request.ofIdentifier i h.config.defaultMode
    let h := { h with lookups := h.lookups ++ request.lookup?.toList }
    match request.resolve site.discovery with
    | .error failure => (.error (failure.onResolution i), h)
    | .ok port => h.openPort site.opening port

def markNative (h : Hub) (index : Nat) : Hub :=
  h.modifySession index fun session => { session with native := true }

/-- The session with a source was opened for a read. -/
def markEphemeral (h : Hub) (index : Nat) : Hub :=
  h.modifySession index fun session => { session with ephemeral := true }

/-- Whether a live session that a key designates is needed by nobody. A native one is always needed;
where `ephemeralOnly`, one that no read opened is too. -/
def isUnused (h : Hub) (key : Identifier) (ephemeralOnly : Bool) (live : Live) : Bool :=
  !live.session.native && (!ephemeralOnly || live.session.ephemeral) &&
    key.agrees live.identifier && (h.interest live.identifier).isEmpty

/-- Closes the sessions that a key designates and nobody needs. -/
def release (h : Hub) (key : Identifier) (ephemeralOnly : Bool) : Hub :=
  let unused := h.sessions.filter (h.isUnused key ephemeralOnly)
  let kept := h.sessions.filter fun live => !h.isUnused key ephemeralOnly live
  ({ h with sessions := kept }.stopSessions unused).2

/-- Closes the sessions that some keys designate and nobody needs, key by key. -/
def releaseAll (h : Hub) : List Identifier → Hub
  | [] => h
  | key :: keys => (h.release key false).releaseAll keys

end MeterHub.Hub
