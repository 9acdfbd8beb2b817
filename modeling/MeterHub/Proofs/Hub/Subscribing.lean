import MeterHub.Proofs.Hub.Refusing

/-!
What a subscription answers that no live session serves. Resolving its identifier decides: where
that fails the identifier is not found, and where it leads to a port that nobody holds, all that is
wrong with the mode or the source is passed on. The port is one that the identifier agrees with, so
the session that is opened there is one that the subscription wants.
-/

set_option autoImplicit false
set_option relaxedAutoImplicit false

namespace MeterHub

theorem Session.openRequest_identifier {σ : Type} [DecidableEq σ] {r : Request} {d : Discovery}
    {opening : Opening} {port : Port} (resolved : r.resolve d = .ok port) {session : Session σ}
    {source : Source} (opened : openRequest r d opening = .ok (session, source)) :
    session.identifier = port.identifier := by
  unfold openRequest openPort at opened
  rw [resolved] at opened
  simp only [bind, Except.bind] at opened
  split at opened
  · cases opened
  · split at opened
    · cases opened
    · cases opened
      rfl

namespace Hub

theorem Refuses.unique {mode? : Option Mode} {site : Site} {i : Identifier}
    {failure failure' : Failure} {opened opened' : List Source}
    (refuses : Refuses mode? site i failure opened)
    (refuses' : Refuses mode? site i failure' opened') : failure = failure' := by
  cases refuses <;> cases refuses' <;> simp_all

theorem Opens.free {h after : Hub} {opening : Opening} {port : Port} {failure : Failure}
    (opens : Opens h opening port (.error failure) after) :
    ∀ live ∈ h.sessions, live.port.same port = false := by
  cases opens with
  | modeless free undefined => exact free
  | unopened free defined refused => exact free
  | unstarted free defined granted refused => exact free

theorem Refuses.not_opened {h after : Hub} {site : Site} {i : Identifier} {failure : Failure}
    {tried : List Source} (refuses : Refuses h.config.defaultMode site i failure tried)
    {port : Port}
    (resolved : (Request.ofIdentifier i h.config.defaultMode).resolve site.discovery = .ok port)
    (free : ∀ live ∈ h.sessions, live.port.same port = false) {granted : Nat × Bool} :
    ¬Opens h site.opening port (.ok granted) after := by
  intro opens
  cases opens with
  | @held live found =>
    have same : live.port.same port = true := by simpa using List.find?_some found
    rw [free live (List.mem_of_find?_eq_some found)] at same
    cases same
  | opened free defined granted started => cases refuses <;> simp_all

theorem subscribeTo_answer (h : Hub) (site : Site) (i : Identifier) (s : Subscriber) :
    (h.subscribeTo site i s).1 =
      (({ h with registry := (h.registry.subscribeTo i s).2 } : Hub).ensureSession site i).1.map
        fun _ => () := by
  unfold subscribeTo attach
  generalize outcome :
    ({ h with registry := (h.registry.subscribeTo i s).2 } : Hub).ensureSession site i = ensured
  cases ensured with
  | mk result after =>
    cases result with
    | ok granted => simp only [outcome, Except.map]
    | error failure =>
      simp only [outcome, Except.map]
      cases (h.registry.subscribeTo i s).1 <;> rfl

theorem subscribeTo_eq_error_iff {h : Hub} {site : Site} {i : Identifier}
    (unserved : ∀ live ∈ h.sessions, i.agrees live.identifier = false) (s : Subscriber)
    {failure : Failure} :
    (h.subscribeTo site i s).1 = .error failure ↔
      (∃ opened, Refuses h.config.defaultMode site i failure opened) ∧
        ∀ port, (Request.ofIdentifier i h.config.defaultMode).resolve site.discovery = .ok port →
          ∀ live ∈ h.sessions, live.port.same port = false := by
  let entered : Hub := { h with registry := (h.registry.subscribeTo i s).2 }
  have ensures := ensureSession_ensures entered site i
  rw [subscribeTo_answer]
  cases outcome : entered.ensureSession site i with
  | mk result after =>
    rw [outcome] at ensures
    change Ensures entered site i result after at ensures
    cases result with
    | error reason =>
      obtain ⟨opened, _, _, refuses, _⟩ := Ensures.refuses ensures
      change Refuses h.config.defaultMode site i reason opened at refuses
      constructor
      · intro failed
        cases failed
        refine ⟨⟨opened, refuses⟩, fun port found => ?_⟩
        cases ensures with
        | unresolved lookups unserved nowhere => cases nowhere.symm.trans found
        | resolved lookups unserved resolved opens =>
          cases resolved.symm.trans found
          exact opens.free
      · rintro ⟨⟨_, refuses'⟩, -⟩
        exact congrArg Except.error (refuses.unique refuses')
    | ok granted =>
      constructor
      · exact nofun
      · rintro ⟨⟨tried, refuses⟩, free⟩
        cases ensures with
        | @served live found =>
          have agree : i.agrees live.identifier = true := by simpa using List.find?_some found
          rw [unserved live (List.mem_of_find?_eq_some found)] at agree
          cases agree
        | @resolved port _ _ lookups unserved resolved opens =>
          exact (Refuses.not_opened (h := { entered with lookups }) refuses resolved
            (free port resolved) opens).elim

/-- Where discovery enumerates, the attached ports determine what an identifier resolves to, and the
identifier agrees with the port that is found and with a new session there, whatever serial number
it carries. A subscription to it that no live session serves does not find the identifier where it
does not resolve; else it fails just for what is wrong with the mode or the source, if the port is
not held. -/
theorem resolution_agrees (ports : Except Failure (List Port)) (i : Identifier)
    (mode? : Option Mode) :
    let d := Discovery.ofEnumeration ports
    let resolved := (Request.ofIdentifier i mode?).resolve d
    (∀ outcome, resolved = outcome ↔ Resolves (Discovery.attached ports) i outcome) ∧
      (∀ port, resolved = .ok port →
        i.agrees port.identifier = true ∧
        (∀ number, let j := i.withSerialNumber number
          (Request.ofIdentifier j mode?).resolve d = .ok port ∧
            j.agrees port.identifier = true) ∧
        ∀ opening (session : Session Relay) source,
          Session.openRequest (.ofIdentifier i mode?) d opening = .ok (session, source) →
            session.identifier = port.identifier) ∧
      ∀ (h : Hub) opening s, h.config.defaultMode = mode? →
        (∀ live ∈ h.sessions, i.agrees live.identifier = false) →
          let answer := (h.subscribeTo ⟨d, opening⟩ i s).1
          (∀ failure, resolved = .error failure → answer = .error (.identifierNotFound i)) ∧
            ∀ failure, answer = .error failure ↔
              (∃ opened, Refuses mode? ⟨d, opening⟩ i failure opened) ∧
                ∀ port, resolved = .ok port → ∀ live ∈ h.sessions, live.port.same port = false := by
  intro d resolved
  have agrees {j : Identifier} {port : Port}
      (found : (Request.ofIdentifier j mode?).resolve d = .ok port) :
      j.agrees port.identifier = true := by
    have names := Request.resolve_names (Discovery.ofEnumeration_faithful ports) found
    exact (names.agrees_learnAll []).trans (by cases j.serialNumber <;> rfl)
  refine ⟨fun outcome => resolve_eq_iff, ?_, ?_⟩
  · intro port found
    refine ⟨agrees found, fun number => ?_, fun _ _ _ => Session.openRequest_identifier found⟩
    -- a serial number is no part of a request
    have same : (Request.ofIdentifier (i.withSerialNumber number) mode?).resolve d = .ok port :=
      found
    exact ⟨same, agrees same⟩
  · rintro h opening s rfl unserved
    refine ⟨fun failure nowhere => ?_, fun failure => subscribeTo_eq_error_iff unserved s⟩
    refine (subscribeTo_eq_error_iff unserved s).mpr ⟨⟨[], .unresolved nowhere⟩, ?_⟩
    intro port found
    cases nowhere.symm.trans found

/-- An id goes before a name: the first port of the id is found although it has another name, and an
id that is not attached is not found although the name is. A source that is busy is passed on. -/
theorem resolution_agrees_id_first :
    let ports : List Port := [⟨some "2", "a"⟩, ⟨some "1", "b"⟩, ⟨some "1", "a"⟩]
    let d := Discovery.ofEnumeration (.ok ports)
    let both : Identifier := (Identifier.ofPort (some "1") "a").withSerialNumber "61"
    let gone : Identifier := (Identifier.ofPort (some "3") "a").withSerialNumber "61"
    let busy : Opening := fun port _ => .ok { start := .error (.transport port.name "busy") }
    let h := fresh {}
    (Request.ofIdentifier both none).resolve d = .ok ⟨some "1", "b"⟩ ∧
      both.agrees (Port.identifier ⟨some "1", "b"⟩) = true ∧
      (h.subscribeTo ⟨d, busy⟩ both (.listener "x")).1 = .error (.transport "b" "busy") ∧
      (Request.ofIdentifier gone none).resolve d = .error (.portIdNotFound "3") ∧
      (h.subscribeTo ⟨d, busy⟩ gone (.listener "x")).1 = .error (.identifierNotFound gone) := by
  intro ports d both gone busy h
  have none (i : Identifier) : ∀ live ∈ h.sessions, i.agrees live.identifier = false :=
    fun _ => nofun
  obtain ⟨resolves, agrees, answers⟩ := resolution_agrees (.ok ports) both (some .historic)
  obtain ⟨missing, -, fails⟩ := resolution_agrees (.ok ports) gone (some .historic)
  have found : (Request.ofIdentifier both (some .historic)).resolve d = .ok ⟨some "1", "b"⟩ := by
    refine (resolves _).mpr (.byId rfl ⟨[⟨some "2", "a"⟩], [⟨some "1", "a"⟩], rfl, rfl, ?_⟩)
    exact List.forall_mem_singleton.mpr (by decide)
  have absent : (Request.ofIdentifier gone (some .historic)).resolve d =
      .error (.portIdNotFound "3") := (missing _).mpr (.idMissing rfl (by decide))
  have refused : ∃ opened, Refuses (some .historic) ⟨d, busy⟩ both (.transport "b" "busy") opened :=
    ⟨_, .unstarted found rfl rfl rfl⟩
  refine ⟨found, (agrees _ found).1, ?_, absent, (fails h busy _ rfl (none gone)).1 _ absent⟩
  exact ((answers h busy _ rfl (none both)).2 _).mpr ⟨refused, fun _ _ _ => nofun⟩

end Hub

end MeterHub
