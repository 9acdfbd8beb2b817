import MeterHub.Frame.Samples
import MeterHub.Proofs.Hub.Turnover

/-!
Whom sessions serve. A subscription that asks for a port is entered and finds a session on that
port, live or opened for it. What the session says goes to the subscriber, unless the session holds
the port under a description that the filter misses.
-/

set_option autoImplicit false
set_option relaxedAutoImplicit false

namespace MeterHub.Hub

/-- Whatever its source will say, a session tells it to a subscriber. -/
def Serves (h : Hub) (live : Live) (s : Subscriber) : Prop :=
  ∀ signals, ∀ event ∈ (live.session.hearAll signals).1, s ∈ h.interest event.identifier

theorem serves_of_agrees {h : Hub} {key : Identifier} {s : Subscriber}
    (entered : (key, s) ∈ h.registry.filtered) (plain : key.isMixed = false) {live : Live}
    (agree : key.agrees live.identifier = true) : h.Serves live s := by
  intro signals event told
  obtain ⟨heard, stamped⟩ := live.session.hearAll_identifier signals event told
  have still : key.agrees (live.identifier.learnAll heard) = true :=
    Identifier.agrees_learnAll plain agree heard
  rw [stamped]
  exact Registry.mem_interested.mpr (.inr ⟨key, entered, still⟩)

theorem agrees_of_placed {key : Identifier} (numberless : key.serialNumber = none) {live : Live}
    (placed : live.IsPlaced) :
    key.agrees live.identifier = key.agreesOnPort live.port.identifier := by
  have onPort : key.agreesOnPort live.identifier = key.agreesOnPort live.port.identifier := by
    unfold Identifier.agreesOnPort
    rw [placed.portId, placed.portName]
    rfl
  rw [Identifier.agrees_eq_tier, numberless, onPort]
  rfl

/-- A port is held, but no session is or will be one that a filter wants. -/
structure Overlooks (h : Hub) (key : Identifier) (port : Port) : Prop where
  held : ∃ live ∈ h.sessions, live.port.same port = true ∧ key.Misses live.port port
  unwanted : ∀ live ∈ h.sessions, ∀ heard, key.agrees (live.identifier.learnAll heard) = false

theorem overlooks_of_unserved {h : Hub} (orderly : h.Orderly) {key : Identifier}
    (numberless : key.serialNumber = none) {port : Port} (names : key.Names port)
    (unserved : ∀ live ∈ h.sessions, key.agrees live.identifier = false) {live : Live}
    (member : live ∈ h.sessions) (same : live.port.same port = true) : h.Overlooks key port := by
  have onPort {other : Live} (listed : other ∈ h.sessions) :
      key.agreesOnPort other.identifier = false := by
    have refused := unserved other listed
    rw [Identifier.agrees_eq_tier, numberless] at refused
    exact refused
  refine ⟨⟨live, member, same, ?_⟩, ?_⟩
  · rw [names.misses_iff same, ← agrees_of_placed numberless (orderly.placed live member)]
    exact unserved live member
  · intro other listed heard
    rw [Identifier.agrees_eq_tier, numberless, Identifier.agreesOnPort_learnAll]
    exact onPort listed

theorem Attaches.serves {h after : Hub} (orderly : h.Orderly) {site : Site}
    (faithful : site.discovery.Faithful) {key : Identifier}
    (numberless : key.serialNumber = none) {s : Subscriber} {answer : Option Nat}
    (attaches : Attaches h site key s (.ok answer) after) :
    (key, s) ∈ after.registry.filtered ∧
      ((∃ live ∈ after.sessions, key.agrees live.identifier = true ∧ after.Serves live s) ∨
        ∃ port, (Request.ofIdentifier key h.config.defaultMode).resolve site.discovery = .ok port ∧
          after.Overlooks key port) := by
  have plain : key.isMixed = false := by
    rw [Identifier.isMixed, numberless]
    rfl
  have entered : (key, s) ∈ (h.registry.subscribeTo key s).2.filtered :=
    Registry.mem_subscribeTo.mpr (.inr rfl)
  cases attaches with
  | @served live found =>
    have agree : key.agrees live.identifier = true := by simpa using List.find?_some found
    have member : live ∈ h.sessions := List.mem_of_find?_eq_some found
    exact ⟨entered, .inl ⟨live, member, agree, serves_of_agrees entered plain agree⟩⟩
  | @shared port live lookups unserved resolved found =>
    have same : live.port.same port = true := by simpa using List.find?_some found
    have member : live ∈ h.sessions := List.mem_of_find?_eq_some found
    -- the session was handed out for its port, although the filter does not want it
    obtain ⟨held, unwanted⟩ := overlooks_of_unserved orderly numberless
      (Request.resolve_names faithful resolved) unserved member same
    exact ⟨entered, .inr ⟨port, resolved, held, unwanted⟩⟩
  | @opened port mode script lanes lookups unserved resolved free defined granted started =>
    let live : Live := ⟨h.sources.length, h.greeted port mode script.greeting⟩
    have agree : key.agrees live.identifier = true := by
      change key.agrees (h.greeted port mode script.greeting).identifier = true
      rw [greeted_identifier]
      exact agrees_greeted faithful plain resolved script.greeting
    have member : live ∈ h.sessions ++ [live] :=
      List.mem_append_right _ (List.mem_singleton_self live)
    exact ⟨entered, .inl ⟨live, member, agree, serves_of_agrees entered plain agree⟩⟩

theorem attach_of_subscribeTo {h : Hub} {site : Site} {key : Identifier} {s : Subscriber}
    (subscribed : (h.subscribeTo site key s).1 = .ok ()) :
    ∃ answer, (h.attach site key s).1 = .ok answer := by
  unfold subscribeTo at subscribed
  cases outcome : h.attach site key s with
  | mk result after =>
    rw [outcome] at subscribed
    cases result with
    | ok answer => exact ⟨answer, rfl⟩
    | error failure => cases subscribed

/-- Whatever has happened, a subscription to a port that is granted is entered, and a session serves
it; or else the port that was found is held under a description that the filter misses, and no
session is or will be one that the filter wants. -/
theorem run_serving (config : Config) (moves : List Move) (site : Site)
    (faithful : site.discovery.Faithful) (key : Identifier) (numberless : key.serialNumber = none)
    (name : String) :
    let h := (fresh config).run moves
    let after := h.move (.subscribeTo site key name)
    (h.subscribeTo site key (.listener name)).1 = .ok () →
      (key, .listener name) ∈ after.registry.filtered ∧
        ((∃ live ∈ after.sessions,
            key.agrees live.identifier = true ∧ after.Serves live (.listener name)) ∨
          ∃ port,
            (Request.ofIdentifier key config.defaultMode).resolve site.discovery = .ok port ∧
              after.Overlooks key port) := by
  intro h after subscribed
  have kept : h.config = config := run_config config moves
  obtain ⟨answer, attached⟩ := attach_of_subscribeTo subscribed
  have attaches := attach_attaches h site key (.listener name)
  rw [attached] at attaches
  have serves := attaches.serves (run_orderly config moves) faithful numberless
  rw [← subscribeTo_eq, kept] at serves
  exact serves

/-- A filter by id finds the session that was opened for a filter by name, and hears it. -/
theorem run_serving_shared :
    let site := quietSite [⟨some "1", "a"⟩]
    let h := (fresh {}).run [.subscribeTo site (.ofPortName "a") "x"]
    let after := h.move (.subscribeTo site (.ofPortId "1") "y")
    after.sessions.length = 1 ∧
      ∃ live ∈ after.sessions, after.Serves live (.listener "y") := by
  intro site h after
  have serving := run_serving {} [.subscribeTo site (.ofPortName "a") "x"] site
    (quietSite_faithful _) (.ofPortId "1") rfl "y" rfl
  refine ⟨by decide, ?_⟩
  rcases serving.2 with ⟨live, member, _, serves⟩ | ⟨port, _, overlooks⟩
  · exact ⟨live, member, serves⟩
  · have wanted : ∃ live ∈ after.sessions,
        (Identifier.ofPortId "1").agrees (live.identifier.learnAll []) = true := by decide
    obtain ⟨live, member, agree⟩ := wanted
    have refused := overlooks.unwanted live member []
    rw [agree] at refused
    cases refused

/-- A device that was announced without its id is missed by a filter by id: the subscription is
granted, and the frames of the device do not go to the subscriber. -/
theorem unserved_by_id :
    let h := (fresh {}).run [.appeared (quietSite []) ⟨none, "a"⟩]
    let site := quietSite [⟨some "1", "a"⟩]
    let after := h.move (.subscribeTo site (.ofPortId "1") "x")
    (h.subscribeTo site (.ofPortId "1") (.listener "x")).1 = .ok () ∧
      after.sessions.length = 1 ∧
      ∀ live ∈ after.sessions,
        (Identifier.ofPortId "1").agrees live.identifier = false ∧
          ∀ event ∈ (live.session.hearAll [.frame (.anonymousSample .historic)]).1,
            .listener "x" ∉ after.interest event.identifier :=
  ⟨rfl, by decide, by decide⟩

end MeterHub.Hub
