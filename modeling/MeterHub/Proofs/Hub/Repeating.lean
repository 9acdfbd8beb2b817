import MeterHub.Frame.Samples
import MeterHub.Proofs.Hub.Greeting
import MeterHub.Proofs.Hub.Polling

/-!
Asking twice. Who asks for a session that it has just been given gets the same one: by its
identifier if the key still designates it, and else by its port, to which the key is resolved again.
So an operation that acquires can be repeated without any effect but the question to discovery.
-/

set_option autoImplicit false
set_option relaxedAutoImplicit false

namespace MeterHub

namespace Hub

theorem find?_eq_none_of_false {p : Live → Bool} {lives : List Live}
    (others : ∀ live ∈ lives, p live = false) : lives.find? p = none := by
  apply List.find?_eq_none.mpr
  intro live member
  rw [others live member]
  exact Bool.false_ne_true

theorem find?_concat {p : Live → Bool} {lives : List Live} {last : Live}
    (others : ∀ live ∈ lives, p live = false) (own : p last = true) :
    (lives ++ [last]).find? p = some last := by
  rw [List.find?_append, find?_eq_none_of_false others, List.find?_cons_of_pos own]
  rfl

theorem openPort_held {h : Hub} {port : Port} {live : Live}
    (found : h.sessions.find? (fun live => live.port.same port) = some live) (opening : Opening) :
    h.openPort opening port = (.ok (live.source, false), h) := by
  unfold openPort
  rw [found]

theorem ensureSession_served {h : Hub} {i : Identifier} {live : Live}
    (found : h.sessions.find? (fun live => i.agrees live.identifier) = some live) (site : Site) :
    h.ensureSession site i = (.ok (live.source, false), h) := by
  unfold ensureSession
  rw [found]

theorem ensureSession_held (site : Site) {h : Hub} {i : Identifier} {port : Port} {live : Live}
    (unserved : ∀ live ∈ h.sessions, i.agrees live.identifier = false)
    (resolved : (Request.ofIdentifier i h.config.defaultMode).resolve site.discovery = .ok port)
    (found : h.sessions.find? (fun live => live.port.same port) = some live) :
    ∃ asked, h.ensureSession site i =
      (.ok (live.source, false), { h with lookups := h.lookups ++ asked }) := by
  refine ⟨(Request.ofIdentifier i h.config.defaultMode).lookup?.toList, ?_⟩
  unfold ensureSession
  rw [find?_eq_none_of_false unserved]
  dsimp only
  rw [resolved]
  let asked : Hub := { h with
    lookups := h.lookups ++ (Request.ofIdentifier i h.config.defaultMode).lookup?.toList }
  exact openPort_held (h := asked) found site.opening

theorem Opens.holds {h once : Hub} {opening : Opening} {port : Port} {index : Nat} {opened : Bool}
    (opens : Opens h opening port (.ok (index, opened)) once) :
    ∃ live, live.source = index ∧
      once.sessions.find? (fun live => live.port.same port) = some live ∧
      ∀ other ∈ once.sessions, other ∈ h.sessions ∨ other = live := by
  cases opens with
  | held found => exact ⟨_, rfl, found, fun other member => .inl member⟩
  | @opened mode script lanes free defined granted started =>
    let new : Live := ⟨h.sources.length, h.greeted port mode script.greeting⟩
    have own : new.port.same port = true := by
      change (h.greeted port mode script.greeting).port.same port = true
      rw [greeted_port, Port.same_refl]
    refine ⟨new, rfl, find?_concat free own, ?_⟩
    intro other member
    exact (List.mem_append.mp member).imp_right List.mem_singleton.mp

theorem Ensures.again {h once : Hub} {site : Site} {i : Identifier} {index : Nat} {opened : Bool}
    (ensures : Ensures h site i (.ok (index, opened)) once) (opening : Opening) :
    ∃ asked, once.ensureSession { site with opening } i =
      (.ok (index, false), { once with lookups := once.lookups ++ asked }) := by
  have served {live : Live}
      (found : once.sessions.find? (fun live => i.agrees live.identifier) = some live) :
      ∃ asked, once.ensureSession { site with opening } i =
        (.ok (live.source, false), { once with lookups := once.lookups ++ asked }) := by
    refine ⟨[], ?_⟩
    rw [List.append_nil]
    exact ensureSession_served found { site with opening }
  cases ensures with
  | served found => exact served found
  | resolved lookups unserved resolved opens =>
    obtain ⟨live, rfl, holds, new⟩ := opens.holds
    cases found : once.sessions.find? fun live => i.agrees live.identifier with
    | some other =>
      -- no session was designated before, so this is the one that was opened
      have agree : i.agrees other.identifier = true := (List.find?_some found :)
      rcases new other (List.mem_of_find?_eq_some found) with early | rfl
      · rw [unserved other early] at agree
        cases agree
      · exact served found
    | none =>
      have config : once.config = h.config := opens.growth.config_eq
      rw [← config] at resolved
      have still : ∀ live ∈ once.sessions, i.agrees live.identifier = false := by
        simpa using List.find?_eq_none.mp found
      exact ensureSession_held { site with opening } still resolved holds

theorem attach_again {h once : Hub} {site : Site} {i : Identifier} {s : Subscriber}
    {granted : Option Nat} (attached : h.attach site i s = (.ok granted, once)) (opening : Opening) :
    ∃ asked, once.attach { site with opening } i s =
      (.ok none, { once with lookups := once.lookups ++ asked }) := by
  let entered : Hub := { h with registry := (h.registry.subscribeTo i s).2 }
  have ensures := ensureSession_ensures entered site i
  cases outcome : entered.ensureSession site i with
  | mk result after =>
    rw [outcome] at ensures
    cases result with
    | error failure =>
      rw [attach_error outcome ensures.registry_eq] at attached
      cases attached
    | ok session =>
      obtain ⟨index, opened⟩ := session
      have same : after = once := by
        unfold attach at attached
        simp only [entered] at outcome
        simp only [outcome] at attached
        exact (Prod.mk.inj attached).2
      subst same
      have registry : after.registry = (h.registry.subscribeTo i s).2 := ensures.registry_eq
      have entry : after.registry.subscribeTo i s = (false, after.registry) := by
        rw [registry]
        exact h.registry.subscribeTo_again i s
      obtain ⟨asked, again⟩ := ensures.again opening
      refine ⟨asked, ?_⟩
      unfold attach
      simp only [entry, again]
      rfl

theorem subscribeTo_again {h : Hub} {site : Site} {i : Identifier} {s : Subscriber}
    (granted : (h.subscribeTo site i s).1 = .ok ()) (opening : Opening) :
    ∃ asked, (h.subscribeTo site i s).2.subscribeTo { site with opening } i s =
      (.ok (), { (h.subscribeTo site i s).2 with
        lookups := (h.subscribeTo site i s).2.lookups ++ asked }) := by
  cases outcome : h.attach site i s with
  | mk result once =>
    cases result with
    | error failure =>
      unfold subscribeTo at granted
      rw [outcome] at granted
      cases granted
    | ok session =>
      have same : (h.subscribeTo site i s).2 = once := by
        rw [subscribeTo_eq, outcome]
      obtain ⟨asked, again⟩ := attach_again outcome opening
      refine ⟨asked, ?_⟩
      rw [same]
      unfold subscribeTo
      rw [again]

theorem appeared_again {h : Hub} {site : Site} {port : Port}
    (granted : (h.appeared site port false).1 = .ok ()) (opening : Opening) :
    (h.appeared site port false).2.appeared { site with opening } port false =
      (.ok (), (h.appeared site port false).2) := by
  obtain ⟨session, opened⟩ := appeared_granted granted
  have opens := openPort_opens h site.opening port
  rw [opened] at opens
  obtain ⟨live, _, holds, _⟩ := opens.holds
  generalize (h.appeared site port false).2 = once at holds ⊢
  unfold appeared
  simp only [openPort_held holds opening]
  rfl

/-- The operations by which a hub acquires. -/
inductive Acquisition
  | subscribe (name : String)
  | subscribeTo (key : Identifier) (name : String)
  | appeared (port : Port)
  | start

/-- The move that an operation is in some surroundings. -/
def Acquisition.move (site : Site) : Acquisition → Move
  | .subscribe name => .subscribe name
  | .subscribeTo key name => .subscribeTo site key name
  | .appeared port => .appeared site port
  | .start => .start site

def answers (h : Hub) (site : Site) : Acquisition → Except Failure Unit
  | .subscribeTo key name => (h.subscribeTo site key (.listener name)).1
  | .appeared port => (h.appeared site port false).1
  | .subscribe _ | .start => .ok ()

theorem start_again (h : Hub) (site again : Site) : (h.start site).start again = h.start site := by
  cases running : h.running with
  | true => rw [start_running running, start_running running]
  | false => exact start_running (start_begins running site).1 again

/-- An operation that acquires and succeeds can be repeated at once: it succeeds again and leaves
the whole hub as it is, but for the questions to discovery. No source is opened, whatever would come
of opening one, and whatever the source of the session has revealed inside its start. -/
theorem run_repeating (config : Config) (moves : List Move) (site : Site) (a : Acquisition) :
    let h := (fresh config).run moves
    let once := h.move (a.move site)
    h.answers site a = .ok () → ∀ opening,
      let again : Site := { site with opening }
      once.answers again a = .ok () ∧
        ∃ asked, once.move (a.move again) = { once with lookups := once.lookups ++ asked } := by
  intro h once granted opening again
  have unasked : once = { once with lookups := once.lookups ++ [] } := by
    rw [List.append_nil]
  cases a with
  | subscribe name =>
    have entered : once.registry.subscribe (.listener name) = (false, once.registry) :=
      h.registry.subscribe_again (.listener name)
    have same : once.subscribe (.listener name) = once := by
      unfold Hub.subscribe
      rw [entered]
    exact ⟨rfl, [], same.trans unasked⟩
  | subscribeTo key name =>
    obtain ⟨asked, repeated⟩ := subscribeTo_again granted opening
    exact ⟨congrArg Prod.fst repeated, asked, congrArg Prod.snd repeated⟩
  | appeared port =>
    have repeated := appeared_again granted opening
    exact ⟨congrArg Prod.fst repeated, [], (congrArg Prod.snd repeated).trans unasked⟩
  | start => exact ⟨rfl, [], (start_again h site again).trans unasked⟩

/-- The source reveals another serial number than the key has, so that the key designates no
session: the second call asks discovery again and finds the session by its port. -/
theorem run_repeating_wrong_number :
    let site : Site :=
      { quietSite [⟨none, "a"⟩] with
        opening := fun _ _ =>
          .ok { greeting := [.frame (.historicSample "62")] } }
    let key : Identifier := (Identifier.ofPortName "a").withSerialNumber "61"
    let once := (fresh {}).move (.subscribeTo site key "x")
    (∀ live ∈ once.sessions, key.agrees live.identifier = false) ∧
      ∃ asked, once.move (.subscribeTo (quietSite [⟨none, "a"⟩]) key "x") =
        { once with lookups := once.lookups ++ asked } := by
  intro site key once
  refine ⟨by decide, ?_⟩
  exact (run_repeating {} [] site (.subscribeTo key "x") rfl _).2

end Hub

end MeterHub
