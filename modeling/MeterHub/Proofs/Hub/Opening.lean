import MeterHub.Hub.Reads
import MeterHub.Proofs.Discovery.Resolution
import MeterHub.Proofs.Hub.Closing
import MeterHub.Proofs.Registry.Interest

/-!
What asking for a session comes to. Each way to ask has a relation that lists its outcomes with
their conditions: a live session serves, one is opened, or there is a failure and no session.
-/

set_option autoImplicit false
set_option relaxedAutoImplicit false

namespace MeterHub.Hub

/-- The session on a port before its source is started. -/
def starting (config : Config) (port : Port) (mode : Mode) : Session Relay :=
  { Session.ofPort port mode with native := config.isNativePort port.name }.listen .hub

/-- The session that is opened on a port, after what its source says inside its start. -/
def greeted (h : Hub) (port : Port) (mode : Mode) (greeting : List Signal) : Session Relay :=
  ((starting h.config port mode).hearAll greeting).2

theorem greeted_eq (h : Hub) (port : Port) (mode : Mode) (greeting : List Signal) :
    ∃ lastFrame, h.greeted port mode greeting =
      { port
        mode
        identifier := port.identifier.learnAll greeting
        lastFrame
        native := h.config.isNativePort port.name
        ephemeral := false
        listeners := [.hub] } := Session.hearAll_eq _ greeting

/-- The outcomes of opening a port. -/
inductive Opens (h : Hub) (opening : Opening) (port : Port) :
    Except Failure (Nat × Bool) → Hub → Prop
  | held {live : Live}
      (found : h.sessions.find? (fun live => live.port.same port) = some live) :
      Opens h opening port (.ok (live.source, false)) h
  | modeless (free : ∀ live ∈ h.sessions, live.port.same port = false)
      (undefined : h.config.defaultMode = none) :
      Opens h opening port (.error .modeNotDefined) h
  | unopened {mode : Mode} {failure : Failure}
      (free : ∀ live ∈ h.sessions, live.port.same port = false)
      (defined : h.config.defaultMode = some mode) (refused : opening port mode = .error failure) :
      Opens h opening port (.error failure) h
  | unstarted {mode : Mode} {script : Script} {failure : Failure} {lanes : Lanes Subscriber}
      (free : ∀ live ∈ h.sessions, live.port.same port = false)
      (defined : h.config.defaultMode = some mode) (granted : opening port mode = .ok script)
      (refused : script.start = .error failure) :
      Opens h opening port (.error failure)
        { h with lanes, sources := h.sources ++ [{ port, mode, script, starts := 1, stops := 1 }] }
  | opened {mode : Mode} {script : Script} {lanes : Lanes Subscriber}
      (free : ∀ live ∈ h.sessions, live.port.same port = false)
      (defined : h.config.defaultMode = some mode) (granted : opening port mode = .ok script)
      (started : script.start = .ok ()) :
      Opens h opening port (.ok (h.sources.length, true))
        { h with
          lanes
          sources := h.sources ++
            [{ port, mode, script, starts := 1, linked := true, running := true }]
          sessions := h.sessions ++ [⟨h.sources.length, h.greeted port mode script.greeting⟩] }

theorem silence_concat (sources : List Source) (source : Source) (session : Session Relay) :
    silence (sources ++ [source]) ⟨sources.length, session⟩ = sources ++ [source.stop.2] := by
  unfold silence
  induction sources with
  | nil => rfl
  | cons first sources ih => exact congrArg (first :: ·) ih

/-- A hub in which a source has been entered and started, and what it said has been routed. -/
def welcome (h : Hub) (source : Source) : Hub :=
  let session := starting h.config source.port source.mode
  (h.enter source).publish session (session.hearAll source.script.greeting).1

theorem welcome_eq (h : Hub) (source : Source) :
    ∃ lanes, h.welcome source = { h with lanes, sources := h.sources ++ [source] } :=
  publish_eq (h.enter source) _ _

theorem welcome_stopSession_eq (h : Hub) (source : Source) (session : Session Relay) :
    ∃ lanes, ((h.welcome source).stopSession ⟨h.sources.length, session⟩).2 =
      { h with lanes, sources := h.sources ++ [source.stop.2] } := by
  obtain ⟨_, entered⟩ := h.welcome_eq source
  obtain ⟨lanes, stopped⟩ := (h.welcome source).stopSession_eq ⟨h.sources.length, session⟩
  rw [entered, silence_concat] at stopped
  exact ⟨lanes, entered ▸ stopped⟩

section OnePort

variable {h : Hub} {opening : Opening} {port : Port} {mode : Mode} {script : Script}

theorem openPort_started (free : ∀ live ∈ h.sessions, live.port.same port = false)
    (defined : h.config.defaultMode = some mode) (granted : opening port mode = .ok script)
    (started : script.start = .ok ()) :
    let opened := h.welcome { port, mode, script, starts := 1, linked := true, running := true }
    h.openPort opening port =
      (.ok (h.sources.length, true),
        { opened with
          sessions := opened.sessions ++
            [⟨h.sources.length, h.greeted port mode script.greeting⟩] }) := by
  have none : h.sessions.find? (fun live => live.port.same port) = none := by
    simpa using free
  unfold openPort
  simp only [none, defined, Session.openPort, granted, Source.start, started, bind, Except.bind,
    pure, Except.pure]
  rfl

theorem openPort_unstarted {failure : Failure}
    (free : ∀ live ∈ h.sessions, live.port.same port = false)
    (defined : h.config.defaultMode = some mode) (granted : opening port mode = .ok script)
    (refused : script.start = .error failure) :
    h.openPort opening port =
      (.error failure,
        ((h.welcome { port, mode, script, starts := 1, linked := true }).stopSession
          ⟨h.sources.length, h.greeted port mode script.greeting⟩).2) := by
  have none : h.sessions.find? (fun live => live.port.same port) = none := by
    simpa using free
  unfold openPort
  simp only [none, defined, Session.openPort, granted, Source.start, refused, bind, Except.bind,
    pure, Except.pure]
  rfl

end OnePort

theorem openPort_opens (h : Hub) (opening : Opening) (port : Port) :
    Opens h opening port (h.openPort opening port).1 (h.openPort opening port).2 := by
  cases found : h.sessions.find? fun live => live.port.same port with
  | some live =>
    unfold openPort
    rw [found]
    exact .held found
  | none =>
    have free : ∀ live ∈ h.sessions, live.port.same port = false := by
      simpa using List.find?_eq_none.mp found
    cases defined : h.config.defaultMode with
    | none =>
      unfold openPort
      simp only [found, defined, Session.openPort]
      exact .modeless free defined
    | some mode =>
      cases granted : opening port mode with
      | error failure =>
        unfold openPort
        simp only [found, defined, Session.openPort, granted]
        exact .unopened free defined granted
      | ok script =>
        cases started : script.start with
        | error failure =>
          obtain ⟨lanes, stopped⟩ := h.welcome_stopSession_eq
            { port, mode, script, starts := 1, linked := true }
            (h.greeted port mode script.greeting)
          rw [openPort_unstarted free defined granted started, stopped]
          exact .unstarted free defined granted started
        | ok =>
          obtain ⟨lanes, entered⟩ :=
            h.welcome_eq { port, mode, script, starts := 1, linked := true, running := true }
          rw [openPort_started free defined granted started, entered]
          exact .opened free defined granted started

/-- The outcomes of making sure that a session serves an identifier. -/
inductive Ensures (h : Hub) (site : Site) (i : Identifier) :
    Except Failure (Nat × Bool) → Hub → Prop
  | served {live : Live}
      (found : h.sessions.find? (fun live => i.agrees live.identifier) = some live) :
      Ensures h site i (.ok (live.source, false)) h
  | unresolved {failure : Failure} (lookups : List Lookup)
      (unserved : ∀ live ∈ h.sessions, i.agrees live.identifier = false)
      (nowhere : (Request.ofIdentifier i h.config.defaultMode).resolve site.discovery =
        .error failure) :
      Ensures h site i (.error (failure.onResolution i)) { h with lookups }
  | resolved {port : Port} {result : Except Failure (Nat × Bool)} {after : Hub}
      (lookups : List Lookup)
      (unserved : ∀ live ∈ h.sessions, i.agrees live.identifier = false)
      (resolved : (Request.ofIdentifier i h.config.defaultMode).resolve site.discovery = .ok port)
      (opens : Opens { h with lookups } site.opening port result after) :
      Ensures h site i result after

theorem ensureSession_ensures (h : Hub) (site : Site) (i : Identifier) :
    Ensures h site i (h.ensureSession site i).1 (h.ensureSession site i).2 := by
  unfold ensureSession
  cases found : h.sessions.find? fun live => i.agrees live.identifier with
  | some live => exact .served found
  | none =>
    have unserved : ∀ live ∈ h.sessions, i.agrees live.identifier = false := by
      simpa using List.find?_eq_none.mp found
    cases resolution : (Request.ofIdentifier i h.config.defaultMode).resolve site.discovery with
    | error failure =>
      simp only [resolution]
      exact .unresolved _ unserved resolution
    | ok port =>
      simp only [resolution]
      exact .resolved _ unserved resolution (openPort_opens _ site.opening port)

/-- The outcomes of entering a subscriber under an identifier. -/
inductive Attaches (h : Hub) (site : Site) (i : Identifier) (s : Subscriber) :
    Except Failure (Option Nat) → Hub → Prop
  | served {live : Live}
      (found : h.sessions.find? (fun live => i.agrees live.identifier) = some live) :
      Attaches h site i s (.ok none) { h with registry := (h.registry.subscribeTo i s).2 }
  | shared {port : Port} {live : Live} {lookups : List Lookup}
      (unserved : ∀ live ∈ h.sessions, i.agrees live.identifier = false)
      (resolved : (Request.ofIdentifier i h.config.defaultMode).resolve site.discovery = .ok port)
      (found : h.sessions.find? (fun live => live.port.same port) = some live) :
      Attaches h site i s (.ok none) { h with registry := (h.registry.subscribeTo i s).2, lookups }
  | opened {port : Port} {mode : Mode} {script : Script}
      {lanes : Lanes Subscriber} {lookups : List Lookup}
      (unserved : ∀ live ∈ h.sessions, i.agrees live.identifier = false)
      (resolved : (Request.ofIdentifier i h.config.defaultMode).resolve site.discovery = .ok port)
      (free : ∀ live ∈ h.sessions, live.port.same port = false)
      (defined : h.config.defaultMode = some mode) (granted : site.opening port mode = .ok script)
      (started : script.start = .ok ()) :
      Attaches h site i s (.ok (some h.sources.length))
        { h with
          lanes
          lookups
          registry := (h.registry.subscribeTo i s).2
          sources := h.sources ++
            [{ port, mode, script, starts := 1, linked := true, running := true }]
          sessions := h.sessions ++ [⟨h.sources.length, h.greeted port mode script.greeting⟩] }
  | refused {failure : Failure} {lanes : Lanes Subscriber} {lookups : List Lookup}
      (unserved : ∀ live ∈ h.sessions, i.agrees live.identifier = false) :
      Attaches h site i s (.error failure) { h with lanes, lookups }
  | unstarted {port : Port} {mode : Mode} {script : Script} {failure : Failure}
      {lanes : Lanes Subscriber} {lookups : List Lookup}
      (unserved : ∀ live ∈ h.sessions, i.agrees live.identifier = false)
      (resolved : (Request.ofIdentifier i h.config.defaultMode).resolve site.discovery = .ok port)
      (granted : site.opening port mode = .ok script) (refused : script.start = .error failure) :
      Attaches h site i s (.error failure)
        { h with
          lanes
          lookups
          sources := h.sources ++ [{ port, mode, script, starts := 1, stops := 1 }] }

theorem attach_error {h after : Hub} {site : Site} {i : Identifier} {s : Subscriber}
    {failure : Failure}
    (failed : ({ h with registry := (h.registry.subscribeTo i s).2 } : Hub).ensureSession site i =
      (.error failure, after))
    (registry : after.registry = (h.registry.subscribeTo i s).2) :
    h.attach site i s =
      (.error failure,
        { after with
          registry := h.registry
          lanes := if h.registry.contains s then after.lanes else after.lanes.close s }) := by
  unfold attach
  simp only [failed]
  cases added : (h.registry.subscribeTo i s).1 with
  | true =>
    have restored : (after.registry.unsubscribeFrom i s).2 = h.registry := by
      rw [registry]
      exact Registry.unsubscribeFrom_subscribeTo added
    simp only [if_true, restored]
    split <;> rfl
  | false =>
    -- the entry was there before
    obtain ⟨kept, there⟩ := Registry.subscribeTo_present added
    have entered : h.registry.contains s = true := Registry.contains_iff.mpr (.inr ⟨i, there⟩)
    rw [kept] at registry
    simp only [entered, if_true]
    rw [← registry]
    rfl

theorem attach_attaches (h : Hub) (site : Site) (i : Identifier) (s : Subscriber) :
    Attaches h site i s (h.attach site i s).1 (h.attach site i s).2 := by
  let entered : Hub := { h with registry := (h.registry.subscribeTo i s).2 }
  have ensures := ensureSession_ensures entered site i
  cases outcome : entered.ensureSession site i with
  | mk result after =>
    rw [outcome] at ensures
    change Ensures entered site i result after at ensures
    cases result with
    | ok granted =>
      obtain ⟨index, opened⟩ := granted
      have attached : h.attach site i s = (.ok (if opened then some index else none), after) := by
        unfold attach
        simp only [entered] at outcome
        simp only [outcome]
      rw [attached]
      cases ensures with
      | served found => exact .served found
      | resolved lookups unserved resolved opens =>
        cases opens with
        | held found => exact .shared unserved resolved found
        | opened free defined granted started =>
          exact .opened unserved resolved free defined granted started
    | error failure =>
      have registry : after.registry = (h.registry.subscribeTo i s).2 := by
        cases ensures with
        | unresolved lookups unserved nowhere => rfl
        | resolved lookups unserved resolved opens => cases opens <;> rfl
      rw [attach_error outcome registry]
      cases ensures with
      | unresolved lookups unserved nowhere => exact .refused unserved
      | resolved lookups unserved resolved opens =>
        cases opens with
        | modeless free undefined => exact .refused unserved
        | unopened free defined refused => exact .refused unserved
        | unstarted free defined granted refused =>
          exact .unstarted unserved resolved granted refused

theorem Attaches.registry_eq {h after : Hub} {site : Site} {i : Identifier} {s : Subscriber}
    {failure : Failure} (attaches : Attaches h site i s (.error failure) after) :
    after.registry = h.registry := by
  cases attaches <;> rfl

/-- The outcomes of beginning a read. A session that is opened for it is ephemeral. -/
inductive Begins (h : Hub) (site : Site) (key : Identifier) (timeout : Option Span) : Hub → Prop
  | served {live : Live} (lookups : List Lookup) (member : live ∈ h.sessions) :
      Begins h site key timeout
        { h with
          lookups
          registry := (h.registry.subscribeTo key (.reader h.reads.length)).2
          reads := h.reads ++ [{ key, timeout := timeout.getD h.config.readTimeout }] }
  | opened {port : Port} {mode : Mode} {script : Script}
      {lanes : Lanes Subscriber} {lookups : List Lookup}
      (resolved : (Request.ofIdentifier key h.config.defaultMode).resolve site.discovery = .ok port)
      (free : ∀ live ∈ h.sessions, live.port.same port = false)
      (defined : h.config.defaultMode = some mode) (granted : site.opening port mode = .ok script)
      (started : script.start = .ok ()) :
      Begins h site key timeout
        { h with
          lanes
          lookups
          registry := (h.registry.subscribeTo key (.reader h.reads.length)).2
          reads := h.reads ++ [{ key, timeout := timeout.getD h.config.readTimeout }]
          sources := h.sources ++
            [{ port, mode, script, starts := 1, linked := true, running := true }]
          sessions := h.sessions ++
            [⟨h.sources.length, { h.greeted port mode script.greeting with ephemeral := true }⟩] }
  | refused {lanes : Lanes Subscriber} {lookups : List Lookup} (read : Read)
      (finished : read.isPending = false) :
      Begins h site key timeout { h with lanes, lookups, reads := h.reads ++ [read] }
  | unstarted {source : Source} {lanes : Lanes Subscriber} {lookups : List Lookup} (read : Read)
      (finished : read.isPending = false) (started : source.starts = 1) (stopped : source.stops = 1)
      (idle : source.running = false) :
      Begins h site key timeout
        { h with lanes, lookups, reads := h.reads ++ [read], sources := h.sources ++ [source] }

theorem beginRead_begins {h : Hub} (bounded : ∀ live ∈ h.sessions, live.source < h.sources.length)
    (site : Site) (key : Identifier) (timeout : Option Span) :
    Begins h site key timeout (h.beginRead site key timeout) := by
  have attaches := attach_attaches h site key (.reader h.reads.length)
  unfold beginRead
  cases outcome : h.attach site key (.reader h.reads.length) with
  | mk result after =>
    rw [outcome] at attaches
    change Attaches h site key (.reader h.reads.length) result after at attaches
    cases attaches with
    | served found => exact .served h.lookups (List.mem_of_find?_eq_some found)
    | shared unserved resolved found => exact .served _ (List.mem_of_find?_eq_some found)
    | refused unserved => exact .refused _ rfl
    | unstarted unserved resolved granted refused => exact .unstarted _ rfl rfl rfl rfl
    | @opened port mode script lanes lookups unserved resolved free defined granted started =>
      have others : (h.sessions.map fun live => if live.source = h.sources.length then
          { live with session := { live.session with ephemeral := true } } else live) =
            h.sessions := by
        refine Eq.trans (List.map_congr_left ?_) (List.map_id h.sessions)
        intro live member
        have older := bounded live member
        exact if_neg (by omega)
      simp only [markEphemeral, modifySession, List.map_append, others, List.map_cons,
        List.map_nil, if_true]
      exact .opened resolved free defined granted started

end MeterHub.Hub
