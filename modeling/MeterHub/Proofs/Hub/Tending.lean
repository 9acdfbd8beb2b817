import MeterHub.Lanes.Step
import MeterHub.Proofs.Hub.Fanout

/-!
How a hub tends its lanes. Whatever it does, events go to subscribers that have an entry at that
moment, and lanes are closed for those that have none.
-/

set_option autoImplicit false
set_option relaxedAutoImplicit false

namespace MeterHub.Hub

/-- A step in which lanes are tended in keeping with a registry. -/
inductive IsTending (r : Registry Identifier Subscriber) : Lanes.Step Subscriber → Prop
  | deliver {s : Subscriber} {event : Event} (told : r.contains s = true) :
      IsTending r (.deliver s event)
  | close {s : Subscriber} (gone : r.contains s = false) : IsTending r (.close s)
  | closeAll (empty : ∀ s, r.contains s = false) : IsTending r .closeAll

/-- Some lanes have been tended in keeping with a registry. -/
def Tends (r : Registry Identifier Subscriber) (before after : Lanes Subscriber) : Prop :=
  ∃ steps, after = before.run steps ∧ ∀ step ∈ steps, IsTending r step

namespace Tends

variable {r : Registry Identifier Subscriber} {before between after : Lanes Subscriber}

theorem refl (r : Registry Identifier Subscriber) (lanes : Lanes Subscriber) :
    Tends r lanes lanes := ⟨[], rfl, List.forall_mem_nil _⟩

theorem trans (first : Tends r before between) (second : Tends r between after) :
    Tends r before after := by
  obtain ⟨steps, rfl, tended⟩ := first
  obtain ⟨more, rfl, tended'⟩ := second
  exact ⟨steps ++ more, (Lanes.run_append _ _ _).symm, List.forall_mem_append.mpr ⟨tended, tended'⟩⟩

theorem single {step : Lanes.Step Subscriber} (tending : IsTending r step) :
    Tends r before (before.step step) :=
  ⟨[step], rfl, List.forall_mem_singleton.mpr tending⟩

theorem mem_openListeners (sound : before.Sound) (tends : Tends r before after) :
    after.Sound ∧ ∀ s ∈ after.openListeners, s ∈ before.openListeners ∨ r.contains s = true := by
  obtain ⟨steps, rfl, tended⟩ := tends
  induction steps generalizing before with
  | nil => exact ⟨sound, fun s isOpen => .inl isOpen⟩
  | cons step steps ih =>
    obtain ⟨now, later⟩ := List.forall_mem_cons.mp tended
    have first : (before.step step).Sound ∧ ∀ s ∈ (before.step step).openListeners,
        s ∈ before.openListeners ∨ r.contains s = true := by
      cases now with
      | @deliver t event told =>
        refine ⟨sound.deliver t event, ?_⟩
        intro s isOpen
        change s ∈ (before.deliver t event).openListeners at isOpen
        rw [Lanes.openListeners_deliver sound, Distinct.mem_add] at isOpen
        rcases isOpen with early | rfl
        · exact .inl early
        · exact .inr told
      | @close t gone =>
        exact ⟨sound.close t, fun s isOpen => .inl (Lanes.mem_openListeners_close.mp isOpen).1⟩
      | closeAll empty =>
        refine ⟨sound.closeAll, ?_⟩
        intro s isOpen
        change s ∈ before.closeAll.openListeners at isOpen
        rw [Lanes.openListeners_closeAll] at isOpen
        cases isOpen
    obtain ⟨still, rest⟩ := ih first.1 later
    refine ⟨still, ?_⟩
    intro s isOpen
    rcases rest s isOpen with early | entered
    · exact first.2 s early
    · exact .inr entered

theorem stays_open (sound : before.Sound) (tends : Tends r before after) {s : Subscriber}
    (entered : r.contains s = true) (isOpen : s ∈ before.openListeners) :
    s ∈ after.openListeners := by
  obtain ⟨steps, rfl, tended⟩ := tends
  induction steps generalizing before with
  | nil => exact isOpen
  | cons step steps ih =>
    obtain ⟨now, later⟩ := List.forall_mem_cons.mp tended
    cases now with
    | @deliver t event told =>
      refine ih (sound.deliver t event) ?_ later
      change s ∈ (before.deliver t event).openListeners
      rw [Lanes.openListeners_deliver sound, Distinct.mem_add]
      exact .inl isOpen
    | @close t gone =>
      refine ih (sound.close t) ?_ later
      refine Lanes.mem_openListeners_close.mpr ⟨isOpen, ?_⟩
      rintro rfl
      rw [entered] at gone
      cases gone
    | closeAll empty =>
      have never := empty s
      rw [entered] at never
      cases never

end Tends

theorem deliverAll_tends {r : Registry Identifier Subscriber} (lanes : Lanes Subscriber)
    (event : Event) {told : List Subscriber} (entered : ∀ s ∈ told, r.contains s = true) :
    Tends r lanes (lanes.deliverAll event told) := by
  induction told generalizing lanes with
  | nil => exact .refl r lanes
  | cons s told ih =>
    obtain ⟨now, later⟩ := List.forall_mem_cons.mp entered
    have first : Tends r lanes (lanes.deliver s event) := .single (.deliver now)
    exact first.trans (ih (lanes.deliver s event) later)

theorem closeLanes_tends {r : Registry Identifier Subscriber} (h : Hub)
    {detached : List Subscriber} (gone : ∀ s ∈ detached, r.contains s = false) :
    Tends r h.lanes (detached.foldl closeLane h).lanes := by
  induction detached generalizing h with
  | nil => exact .refl r h.lanes
  | cons s detached ih =>
    obtain ⟨now, later⟩ := List.forall_mem_cons.mp gone
    have first : Tends r h.lanes (h.closeLane s).lanes := .single (.close now)
    exact first.trans (ih (h.closeLane s) later)

theorem contains_of_interest {h : Hub} {i : Identifier} {s : Subscriber}
    (interested : s ∈ h.interest i) : h.registry.contains s = true := by
  rw [Registry.contains_iff]
  rcases Registry.mem_interested.mp interested with unfiltered | ⟨key, entered, _⟩
  · exact .inl unfiltered
  · exact .inr ⟨key, entered⟩

theorem routeAll_tends (h : Hub) (events : List Event) :
    Tends h.registry h.lanes (h.routeAll events).lanes := by
  induction events generalizing h with
  | nil => exact .refl h.registry h.lanes
  | cons event events ih =>
    have first : Tends h.registry h.lanes (h.route event).lanes :=
      deliverAll_tends h.lanes event fun _ => contains_of_interest
    exact first.trans (ih (h.route event))

theorem publish_tends (h : Hub) (session : Session Relay) (events : List Event) :
    Tends h.registry h.lanes (h.publish session events).lanes := routeAll_tends h _

theorem stopSession_tends (h : Hub) (live : Live) :
    Tends h.registry h.lanes (h.stopSession live).2.lanes := by
  unfold stopSession
  cases h.sources[live.source]? with
  | none => exact .refl h.registry h.lanes
  | some source =>
    exact publish_tends { h with sources := h.sources.set live.source source.stop.2 } live.session
      (live.session.stop source.stop.1).1

theorem stopSessions_tends (h : Hub) (lives : List Live) :
    Tends h.registry h.lanes (h.stopSessions lives).2.lanes := by
  induction lives generalizing h with
  | nil => exact .refl h.registry h.lanes
  | cons live lives ih =>
    have first := stopSession_tends h live
    have rest := ih (h.stopSession live).2
    obtain ⟨lanes, stopped⟩ := stopSession_eq h live
    have registry : (h.stopSession live).2.registry = h.registry := by rw [stopped]
    rw [registry] at rest
    exact first.trans rest

theorem release_tends (h : Hub) (key : Identifier) (ephemeralOnly : Bool) :
    Tends h.registry h.lanes (h.release key ephemeralOnly).lanes :=
  stopSessions_tends
    { h with sessions := h.sessions.filter fun live => !h.isUnused key ephemeralOnly live } _

theorem releaseAll_tends (h : Hub) (keys : List Identifier) :
    Tends h.registry h.lanes (h.releaseAll keys).lanes := by
  induction keys generalizing h with
  | nil => exact .refl h.registry h.lanes
  | cons key keys ih =>
    have first := release_tends h key false
    have rest := ih (h.release key false)
    obtain ⟨lanes, released⟩ := release_eq h key false
    have registry : (h.release key false).registry = h.registry := by rw [released]
    rw [registry] at rest
    exact first.trans rest

theorem openPort_tends (h : Hub) (opening : Opening) (port : Port) :
    Tends h.registry h.lanes (h.openPort opening port).2.lanes := by
  unfold openPort
  cases h.sessions.find? fun live => live.port.same port with
  | some live => exact .refl h.registry h.lanes
  | none =>
    cases (Session.openPort port h.config.defaultMode opening :
        Except Failure (Session Relay × Source)) with
    | error failure => exact .refl h.registry h.lanes
    | ok opened =>
      obtain ⟨session, source⟩ := opened
      dsimp only
      cases source.start with
      | mk result started =>
        obtain ⟨greeting, started⟩ := started
        let starting : Session Relay :=
          { session with native := h.config.isNativePort port.name }.listen .hub
        have first := publish_tends (h.enter started) starting (starting.hearAll greeting).1
        cases result with
        | error failure =>
          have second := stopSession_tends
            ((h.enter started).publish starting (starting.hearAll greeting).1)
            ⟨h.sources.length, (starting.hearAll greeting).2⟩
          obtain ⟨_, published⟩ :=
            publish_eq (h.enter started) starting (starting.hearAll greeting).1
          rw [congrArg Hub.registry published] at second
          exact first.trans second
        | ok => exact first

theorem ensureSession_tends (h : Hub) (site : Site) (i : Identifier) :
    Tends h.registry h.lanes (h.ensureSession site i).2.lanes := by
  unfold ensureSession
  cases h.sessions.find? fun live => i.agrees live.identifier with
  | some live => exact .refl h.registry h.lanes
  | none =>
    dsimp only
    cases (Request.ofIdentifier i h.config.defaultMode).resolve site.discovery with
    | error failure => exact .refl h.registry h.lanes
    | ok port =>
      exact openPort_tends { h with lookups := h.lookups ++
        (Request.ofIdentifier i h.config.defaultMode).lookup?.toList } site.opening port

theorem appeared_tends (h : Hub) (site : Site) (port : Port) (polled : Bool) :
    Tends h.registry h.lanes (h.appeared site port polled).2.lanes := by
  rcases h.appeared_cases site port polled with nothing | opened
  · rw [nothing]
    exact .refl h.registry h.lanes
  · rw [opened]
    exact openPort_tends h site.opening port

theorem openNative_tends (site : Site) (h : Hub) (name : String) :
    Tends h.registry h.lanes (openNative site h name).lanes := by
  obtain ⟨lookups, nowhere | ⟨port, either⟩⟩ := openNative_cases site h name
  · rw [nowhere]
    exact .refl h.registry h.lanes
  · have tends := openPort_tends { h with lookups } site.opening port
    rcases either with refused | ⟨index, opened⟩
    · rw [refused]
      exact tends
    · rw [opened]
      exact tends

theorem start_tends (h : Hub) (site : Site) : Tends h.registry h.lanes (h.start site).lanes := by
  have natives (names : List String) (g : Hub) :
      Tends g.registry g.lanes (names.foldl (openNative site) g).lanes := by
    induction names generalizing g with
    | nil => exact .refl g.registry g.lanes
    | cons name names ih =>
      have rest := ih (openNative site g name)
      rw [(openNative_readers site g name).1] at rest
      exact (openNative_tends site g name).trans rest
  unfold start
  split
  · exact .refl h.registry h.lanes
  · exact natives h.config.nativePorts { h with running := true }

theorem report_tends (h : Hub) (index : Nat) (signal : Signal) :
    Tends h.registry h.lanes (h.report index signal).lanes := by
  unfold report
  cases h.sessions.find? fun live => live.source == index with
  | none => exact .refl h.registry h.lanes
  | some live =>
    exact publish_tends (h.modifySession index fun _ => (live.session.hear signal).2)
      (live.session.hear signal).2 [(live.session.hear signal).1]

theorem disappeared_tends (h : Hub) (port : Port) :
    Tends h.registry h.lanes (h.disappeared port).lanes :=
  stopSessions_tends { h with sessions := h.sessions.filter fun live => !live.port.same port } _

theorem consume_tends (h : Hub) (site : Site) :
    Tends h.registry h.lanes (h.consume site).lanes := by
  rcases h.consume_cases site with nothing | ⟨poller, change, rest, _, _, consumed⟩
  · rw [nothing]
    exact .refl h.registry h.lanes
  · let drained : Hub := { h with poller := some { poller with queue := rest } }
    rw [consumed]
    cases change with
    | appeared port => exact appeared_tends drained site port true
    | disappeared port => exact disappeared_tends drained port

end MeterHub.Hub
