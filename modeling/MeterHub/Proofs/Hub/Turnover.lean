import MeterHub.Proofs.Hub.Order

/-!
What subscribers and readers do to filters and sessions. Each of their moves leaves the filters as
they are, adds one and sees to a session for it, or takes some away and closes what is spare then.
-/

set_option autoImplicit false
set_option relaxedAutoImplicit false

namespace MeterHub

namespace Move

/-- The key for which a move asks for a session. -/
def asks? : Move → Option Identifier
  | .subscribeTo _ key _ | .beginRead _ key _ => some key
  | _ => none

def endsRead : Move → Bool
  | .endRead _ => true
  | _ => false

/-- The moves of subscribers with filters, of readers, of devices that go and of sources that speak.
Keys are not mixed, and discovery finds what it is asked for. -/
def IsKeyed : Move → Prop
  | .subscribeTo site key _ | .beginRead site key _ =>
    site.discovery.Faithful ∧ key.isMixed = false
  | .unsubscribe _ | .unsubscribeFrom _ _ | .endRead _ | .disappeared _ | .notify _ => True
  | .report _ _ | .takeUp _ | .finish _ _ => True
  | _ => False

theorem IsKeyed.plain {m : Move} (keyed : m.IsKeyed) {key : Identifier}
    (asked : m.asks? = some key) : key.isMixed = false := by
  cases m with
  | subscribeTo site wanted name =>
    have same : wanted = key := by simpa [asks?] using asked
    exact same ▸ keyed.2
  | beginRead site wanted timeout =>
    have same : wanted = key := by simpa [asks?] using asked
    exact same ▸ keyed.2
  | _ => cases asked

end Move

namespace Hub

/-- What a move may do to the filters and the sessions of a hub. What is spare under the keys of
lost filters closes, except that the end of a read spares what no read has opened. -/
inductive Turnover (h : Hub) (m : Move) (h' : Hub) : Prop
  | kept (registry : h'.registry = h.registry)
      (sessions : ∀ live ∈ h'.sessions, ∃ old ∈ h.sessions, live = hears m old)
  | gained {key : Identifier} (s : Subscriber) (asked : m.asks? = some key)
      (reader : m.beginsRead = true → ∃ index, s = .reader index)
      (registry : h'.registry = (h.registry.subscribeTo key s).2)
      (sessions : ∀ live ∈ h'.sessions, live ∈ h.sessions ∨
        live.session.native = false ∧ live.session.ephemeral = m.beginsRead ∧
          key.agrees live.identifier = true)
  | lost (keys : List Identifier)
      (unfiltered : ∀ s ∈ h'.registry.unfiltered, s ∈ h.registry.unfiltered)
      (fewer : ∀ entry ∈ h'.registry.filtered, entry ∈ h.registry.filtered)
      (removed : ∀ entry ∈ h.registry.filtered, entry ∈ h'.registry.filtered ∨ entry.1 ∈ keys)
      (sessions : h'.sessions = h.sessions.filter fun live =>
        !((!m.endsRead || live.session.ephemeral) && isSpare h'.registry keys live))

/-- A key that found a port and is not mixed wants the session on it, whatever the session has
heard. -/
theorem agrees_greeted {d : Discovery} (faithful : d.Faithful) {key : Identifier}
    (plain : key.isMixed = false) {mode : Option Mode} {port : Port}
    (resolved : (Request.ofIdentifier key mode).resolve d = .ok port) (signals : List Signal) :
    key.agrees (port.identifier.learnAll signals) = true := by
  have names : key.Names port := Request.resolve_names faithful resolved
  rw [names.agrees_learnAll]
  cases serial : key.serialNumber with
  | none => rfl
  | some serialNumber =>
    have portless : key.portId = none ∧ key.portName = none := by
      simpa [Identifier.isMixed, serial] using plain
    unfold Identifier.Names at names
    rw [portless.1, portless.2] at names
    exact names.elim

theorem greeted_identifier (h : Hub) (port : Port) (mode : Mode) (greeting : List Signal) :
    (h.greeted port mode greeting).identifier = port.identifier.learnAll greeting := by
  obtain ⟨_, greeted⟩ := h.greeted_eq port mode greeting
  rw [greeted]

theorem greeted_guest {h : Hub} (guests : h.config.nativePorts = []) (port : Port) (mode : Mode)
    (greeting : List Signal) : (h.greeted port mode greeting).native = false := by
  rw [greeted_native, Config.isNativePort, guests]
  rfl

theorem subscribeTo_turnover {h : Hub} (guests : h.config.nativePorts = []) {site : Site}
    (faithful : site.discovery.Faithful) {key : Identifier} (plain : key.isMixed = false)
    (name : String) :
    Turnover h (.subscribeTo site key name) (h.subscribeTo site key (.listener name)).2 := by
  have attaches := attach_attaches h site key (.listener name)
  rw [subscribeTo_eq]
  generalize (h.attach site key (.listener name)).1 = result at attaches
  generalize (h.attach site key (.listener name)).2 = after at attaches ⊢
  cases attaches with
  | served found => exact .gained (.listener name) rfl nofun rfl fun live member => .inl member
  | shared unserved resolved found =>
    exact .gained (.listener name) rfl nofun rfl fun live member => .inl member
  | refused unserved => exact .kept rfl fun live member => ⟨live, member, rfl⟩
  | unstarted unserved resolved granted refused =>
    exact .kept rfl fun live member => ⟨live, member, rfl⟩
  | @opened port mode script _ _ unserved resolved free defined granted started =>
    refine .gained (.listener name) rfl nofun rfl ?_
    intro live member
    rcases List.mem_append.mp member with old | new
    · exact .inl old
    · have agree := agrees_greeted faithful plain resolved script.greeting
      rw [← h.greeted_identifier port mode] at agree
      rw [List.mem_singleton.mp new]
      exact .inr ⟨greeted_guest guests port mode script.greeting,
        h.greeted_ephemeral port mode script.greeting, agree⟩

theorem beginRead_turnover {h : Hub} (orderly : h.Orderly) (guests : h.config.nativePorts = [])
    {site : Site} (faithful : site.discovery.Faithful) {key : Identifier}
    (plain : key.isMixed = false) (timeout : Option Span) :
    Turnover h (.beginRead site key timeout) (h.beginRead site key timeout) := by
  have bounded : ∀ live ∈ h.sessions, live.source < h.sources.length :=
    fun live member => orderly.bounded member
  have begins := beginRead_begins bounded site key timeout
  have reader : (Move.beginRead site key timeout).beginsRead = true →
      ∃ index, Subscriber.reader h.reads.length = .reader index := fun _ => ⟨h.reads.length, rfl⟩
  generalize h.beginRead site key timeout = after at begins ⊢
  cases begins with
  | served lookups _ => exact .gained _ rfl reader rfl fun live member => .inl member
  | refused read finished => exact .kept rfl fun live member => ⟨live, member, rfl⟩
  | unstarted read finished started stopped idle =>
    exact .kept rfl fun live member => ⟨live, member, rfl⟩
  | @opened port mode script _ _ resolved free defined granted started =>
    refine .gained _ rfl reader rfl ?_
    intro live member
    rcases List.mem_append.mp member with old | new
    · exact .inl old
    · have agree := agrees_greeted faithful plain resolved script.greeting
      rw [← h.greeted_identifier port mode] at agree
      rw [List.mem_singleton.mp new]
      exact .inr ⟨greeted_guest guests port mode script.greeting, rfl, agree⟩

theorem unsubscribe_turnover (h : Hub) (name : String) :
    Turnover h (.unsubscribe name) (h.unsubscribe (.listener name)) := by
  obtain ⟨_, unsubscribed⟩ := h.unsubscribe_eq (.listener name)
  rw [unsubscribed]
  refine .lost (h.registry.keysOf (.listener name)) ?_ ?_ ?_ rfl
  · intro s member
    exact (List.mem_filter.mp member).1
  · intro entry entered
    exact (Registry.mem_without.mp entered).1
  · rintro ⟨key, s⟩ entered
    by_cases own : s = .listener name
    · exact .inr (Registry.mem_keysOf.mpr (own ▸ entered))
    · exact .inl (Registry.mem_without.mpr ⟨entered, own⟩)

private theorem removed_from (r : Registry Identifier Subscriber) (key : Identifier)
    (s : Subscriber) :
    ∀ entry ∈ r.filtered, entry ∈ (r.unsubscribeFrom key s).2.filtered ∨ entry.1 ∈ [key] := by
  intro entry entered
  by_cases own : entry = (key, s)
  · exact .inr (own ▸ List.mem_singleton_self key)
  · exact .inl (Registry.mem_unsubscribeFrom.mpr ⟨entered, own⟩)

theorem unsubscribeFrom_turnover (h : Hub) (key : Identifier) (name : String) :
    Turnover h (.unsubscribeFrom key name) (h.unsubscribeFrom key (.listener name)) := by
  obtain ⟨_, unsubscribed⟩ := h.unsubscribeFrom_eq key (.listener name)
  rw [unsubscribed]
  refine .lost [key] (fun s member => member) ?_ (removed_from h.registry key _) rfl
  intro entry entered
  exact (Registry.mem_unsubscribeFrom.mp entered).1

theorem endRead_turnover (h : Hub) (index : Nat) :
    Turnover h (.endRead index) (h.endRead index) := by
  have still : Turnover h (.endRead index) h := .kept rfl fun live member => ⟨live, member, rfl⟩
  rcases h.endRead_cases index with nothing | ⟨read, at_index, pending⟩
  · rw [nothing]
    exact still
  · obtain ⟨_, ended⟩ := endRead_eq at_index pending
    rw [ended]
    refine .lost [read.key] (fun s member => member) ?_ (removed_from h.registry read.key _) rfl
    intro entry entered
    exact (Registry.mem_unsubscribeFrom.mp entered).1

theorem notify_turnover (h : Hub) (index : Nat) : Turnover h (.notify index) (h.notify index) := by
  cases noted : h.notices[index]? with
  | none =>
    rw [notify_absent noted]
    exact .kept rfl fun live member => ⟨live, member, rfl⟩
  | some i =>
    obtain ⟨_, keys, released, notified⟩ := notify_eq noted
    rw [notified]
    refine .lost keys ?_ ?_ (kept_or_released released) rfl
    · intro s member
      rw [unplugged_unfiltered] at member
      cases member
    · intro entry entered
      exact (mem_unplugged.mp entered).1

theorem disappeared_turnover (h : Hub) (port : Port) :
    Turnover h (.disappeared port) (h.disappeared port) := by
  obtain ⟨_, _, disappeared⟩ := h.disappeared_eq port
  rw [disappeared]
  exact .kept rfl fun live member => ⟨live, (List.mem_filter.mp member).1, rfl⟩

theorem report_turnover {h : Hub} (orderly : h.Orderly) (index : Nat) (signal : Signal) :
    Turnover h (.report index signal) (h.report index signal) := by
  obtain ⟨_, reported⟩ := report_eq orderly.distinct index signal
  rw [reported]
  refine .kept rfl ?_
  intro live member
  obtain ⟨old, listed, rfl⟩ := List.mem_map.mp member
  exact ⟨old, listed, rfl⟩

theorem takeUp_turnover (h : Hub) (lane : Nat) : Turnover h (.takeUp lane) (h.takeUp lane) := by
  obtain ⟨_, _, taken, _⟩ := h.takeUp_eq lane
  rw [taken]
  exact .kept rfl fun live member => ⟨live, member, rfl⟩

theorem move_turnover {h : Hub} (orderly : h.Orderly) (guests : h.config.nativePorts = []) {m : Move}
    (keyed : m.IsKeyed) : Turnover h m (h.move m) := by
  cases m with
  | subscribeTo site key name => exact subscribeTo_turnover guests keyed.1 keyed.2 name
  | unsubscribe name => exact unsubscribe_turnover h name
  | unsubscribeFrom key name => exact unsubscribeFrom_turnover h key name
  | beginRead site key timeout => exact beginRead_turnover orderly guests keyed.1 keyed.2 timeout
  | endRead index => exact endRead_turnover h index
  | disappeared port => exact disappeared_turnover h port
  | notify index => exact notify_turnover h index
  | report source signal => exact report_turnover orderly source signal
  | takeUp lane => exact takeUp_turnover h lane
  | finish lane panicked => exact .kept rfl fun live member => ⟨live, member, rfl⟩
  | _ => exact keyed.elim

end Hub

end MeterHub
