import MeterHub.Proofs.Hub.Speaking

/-!
The fan-out of an unplugged device. Everyone who is interested is told once and loses its entry
without a filter and its filters on the device; whoever has no entry left loses the lane. Nobody
else is concerned, even if sources that stop meanwhile report errors.
-/

set_option autoImplicit false
set_option relaxedAutoImplicit false

namespace MeterHub

/-- A source that reports at most errors while it is stopped. -/
def Source.PartsInErrors (source : Source) : Prop :=
  ∀ signal ∈ source.script.lastWords, ∃ message, signal = .error message

namespace Registry

variable {κ σ : Type} [DecidableEq σ]

theorem contains_dismiss_cons {agrees : κ → κ → Bool} {r : Registry κ σ} {probe : κ} {s : σ}
    {told : List σ} :
    (r.dismiss agrees probe (s :: told)).contains s = (r.dismiss agrees probe [s]).contains s := by
  rw [Bool.eq_iff_iff, contains_iff, contains_iff]
  have unlisted (others : List σ) : s ∉ (r.dismiss agrees probe (s :: others)).unfiltered := by
    simp [dismiss]
  have filtered (others : List σ) (key : κ) :
      (key, s) ∈ (r.dismiss agrees probe (s :: others)).filtered ↔
        (key, s) ∈ r.filtered ∧ ¬agrees key probe = true := by
    rw [mem_dismiss]
    simp
  simp only [unlisted, filtered]

end Registry

namespace Hub

theorem mem_tellAll_detached {i : Identifier} {told : List Subscriber} {a : Announcement}
    {s : Subscriber} :
    s ∈ (told.foldl (Announcement.tell i) a).detached ↔
      s ∈ a.detached ∨
        s ∈ told ∧ (a.hub.registry.dismiss Identifier.agrees i told).contains s = false := by
  induction told generalizing a with
  | nil => simp
  | cons t told ih =>
    have detached : s ∈ (a.tell i t).detached ↔
        s ∈ a.detached ∨
          s = t ∧ (a.hub.registry.dismiss Identifier.agrees i [t]).contains t = false := by
      have registry := tell_registry i a t
      rw [← registry]
      change s ∈ (if (a.tell i t).hub.registry.contains t = true then a.detached
        else a.detached ++ [t]) ↔ _
      cases (a.tell i t).hub.registry.contains t <;> simp
    rw [List.foldl_cons, ih, detached, tell_registry, Registry.dismiss_cons, List.mem_cons]
    by_cases own : s = t
    · subst own
      simp only [Registry.contains_dismiss_cons, true_and, true_or]
      tauto
    · simp only [own, false_and, or_false, false_or]

theorem mem_openListeners_deliverAll {lanes : Lanes Subscriber} (sound : lanes.Sound)
    (event : Event) {told : List Subscriber} {s : Subscriber} :
    s ∈ (lanes.deliverAll event told).openListeners ↔ s ∈ lanes.openListeners ∨ s ∈ told := by
  induction told generalizing lanes with
  | nil =>
    change s ∈ lanes.openListeners ↔ _
    simp
  | cons t told ih =>
    change s ∈ ((lanes.deliver t event).deliverAll event told).openListeners ↔ _
    rw [ih (sound.deliver t event), Lanes.openListeners_deliver sound, Distinct.mem_add,
      List.mem_cons, or_assoc]

theorem mem_openListeners_closeLanes {h : Hub} {detached : List Subscriber} {s : Subscriber} :
    s ∈ (detached.foldl closeLane h).lanes.openListeners ↔
      s ∈ h.lanes.openListeners ∧ s ∉ detached := by
  induction detached generalizing h with
  | nil => simp
  | cons t detached ih =>
    have closed : s ∈ (h.closeLane t).lanes.openListeners ↔ s ∈ h.lanes.openListeners ∧ s ≠ t :=
      Lanes.mem_openListeners_close
    rw [List.foldl_cons, ih, closed, List.mem_cons, not_or, and_assoc]

theorem routeAll_unheard {h : Hub} {events : List Event}
    (unheard : ∀ event ∈ events, h.interest event.identifier = []) : h.routeAll events = h := by
  induction events with
  | nil => rfl
  | cons event events ih =>
    obtain ⟨now, later⟩ := List.forall_mem_cons.mp unheard
    have same : h.route event = h := by
      unfold route
      rw [now]
      rfl
    change (h.route event).routeAll events = h
    rw [same]
    exact ih later

/-- Whether the source of a session reports at most errors while it is stopped. -/
def PartsInErrors (sources : List Source) (live : Live) : Prop :=
  ∀ source, sources[live.source]? = some source → source.PartsInErrors

theorem partsInErrors_of_all {sources : List Source}
    (curt : ∀ source ∈ sources, source.PartsInErrors) (live : Live) : PartsInErrors sources live :=
  fun source entered => curt source (List.mem_of_getElem? entered)

theorem stopSession_unheard {h : Hub} {live : Live} (curt : PartsInErrors h.sources live)
    (unwanted : h.interest live.identifier = []) : (h.stopSession live).2.lanes = h.lanes := by
  unfold stopSession
  cases entered : h.sources[live.source]? with
  | none => rfl
  | some source =>
    have errors : ∀ signal ∈ source.stop.1, ∃ message, signal = .error message := by
      have own := curt source entered
      unfold Source.stop
      dsimp only
      split
      · exact own
      · exact List.forall_mem_nil _
    -- errors reveal no serial number, so the events carry the identifier that nobody wants
    have unheard : ∀ event ∈ ((live.session.calls (live.session.stop source.stop.1).1).map (·.2)),
        h.interest event.identifier = [] := by
      intro event told
      obtain ⟨call, made, rfl⟩ := List.mem_map.mp told
      obtain ⟨said, listed, called⟩ := List.mem_flatMap.mp made
      obtain ⟨listener, _, rfl⟩ := List.mem_map.mp called
      obtain ⟨place, at_place⟩ := List.mem_iff_getElem?.mp listed
      have stamped := Session.hearAll_stamp live.session source.stop.1 at_place
      rw [Identifier.learnAll_errors fun signal member =>
        errors signal (List.mem_of_mem_take member)] at stamped
      rw [stamped]
      exact unwanted
    let stopped : Hub := { h with sources := h.sources.set live.source source.stop.2 }
    have silent := routeAll_unheard (h := stopped) unheard
    change (stopped.publish live.session (live.session.stop source.stop.1).1).lanes = h.lanes
    unfold publish
    rw [silent]

theorem script_of_silence {sources : List Source} {other : Live} {index : Nat} {source : Source}
    (entered : (silence sources other)[index]? = some source) :
    ∃ old, sources[index]? = some old ∧ source.script = old.script := by
  rw [getElem?_silence] at entered
  split at entered
  · obtain ⟨old, listed, rfl⟩ := Option.map_eq_some_iff.mp entered
    exact ⟨old, listed, rfl⟩
  · exact ⟨source, entered, rfl⟩

theorem PartsInErrors.silence {sources : List Source} {live : Live}
    (curt : PartsInErrors sources live) (other : Live) :
    PartsInErrors (silence sources other) live := by
  intro source entered
  obtain ⟨old, listed, script⟩ := script_of_silence entered
  unfold Source.PartsInErrors
  rw [script]
  exact curt old listed

theorem silenceAll_partsInErrors {sources : List Source} (lives : List Live)
    (curt : ∀ source ∈ sources, source.PartsInErrors) :
    ∀ source ∈ lives.foldl silence sources, source.PartsInErrors := by
  induction lives generalizing sources with
  | nil => exact curt
  | cons live lives ih =>
    apply ih
    intro source member
    obtain ⟨index, entered⟩ := List.mem_iff_getElem?.mp member
    obtain ⟨old, listed, script⟩ := script_of_silence entered
    unfold Source.PartsInErrors
    rw [script]
    exact curt old (List.mem_of_getElem? listed)

theorem stopSessions_unheard {h : Hub} {lives : List Live}
    (curt : ∀ live ∈ lives, PartsInErrors h.sources live)
    (unwanted : ∀ live ∈ lives, h.interest live.identifier = []) :
    (h.stopSessions lives).2.lanes = h.lanes := by
  induction lives generalizing h with
  | nil => rfl
  | cons live lives ih =>
    obtain ⟨now, later⟩ := List.forall_mem_cons.mp unwanted
    obtain ⟨first, rest⟩ := List.forall_mem_cons.mp curt
    have silent := stopSession_unheard first now
    obtain ⟨lanes, stopped⟩ := stopSession_eq h live
    rw [stopped] at silent
    change lanes = h.lanes at silent
    change ((h.stopSession live).2.stopSessions lives).2.lanes = h.lanes
    rw [stopped, silent]
    exact ih (h := { h with sources := silence h.sources live })
      (fun other member => (rest other member).silence live) later

theorem release_unheard {h : Hub} {key : Identifier} {ephemeralOnly : Bool}
    (curt : ∀ live ∈ h.sessions, h.isUnused key ephemeralOnly live = true →
      PartsInErrors h.sources live) : (h.release key ephemeralOnly).lanes = h.lanes := by
  let kept : Hub :=
    { h with sessions := h.sessions.filter fun live => !h.isUnused key ephemeralOnly live }
  apply stopSessions_unheard (h := kept)
  · intro live member
    obtain ⟨listed, unused⟩ := List.mem_filter.mp member
    exact curt live listed unused
  · intro live member
    have unused : h.isUnused key ephemeralOnly live = true := (List.mem_filter.mp member).2
    unfold isUnused at unused
    rw [Bool.and_eq_true, List.isEmpty_iff] at unused
    exact unused.2

theorem releaseEach_unheard {h : Hub} (curt : ∀ source ∈ h.sources, source.PartsInErrors)
    (keys : List Identifier) (ephemeralOnly : Bool) :
    (keys.foldl (fun hub key => hub.release key ephemeralOnly) h).lanes = h.lanes := by
  induction keys generalizing h with
  | nil => rfl
  | cons key keys ih =>
    have first : (h.release key ephemeralOnly).lanes = h.lanes :=
      release_unheard fun live _ _ => partsInErrors_of_all curt live
    have still : ∀ source ∈ (h.release key ephemeralOnly).sources, source.PartsInErrors := by
      obtain ⟨_, released⟩ := release_eq h key ephemeralOnly
      rw [released]
      exact silenceAll_partsInErrors _ curt
    exact (ih still).trans first

theorem releaseAll_unheard {h : Hub} (curt : ∀ source ∈ h.sources, source.PartsInErrors)
    (keys : List Identifier) : (h.releaseAll keys).lanes = h.lanes := by
  rw [releaseAll_eq_foldl]
  exact releaseEach_unheard curt keys false

/-- What announcing an unplugged device does to lanes and entries. -/
structure Fanout (h : Hub) (i : Identifier) (after : Hub) : Prop where
  told : ∀ s, after.lanes.heldFor s = h.lanes.heldFor s ++
    if IsTold h.registry s i then [.fault (.unplugged i)] else []
  registry : after.registry =
    { unfiltered := [], filtered := h.registry.filtered.filter fun entry => !entry.1.agrees i }
  forgotten : after.interest i = []
  lanes : ∀ s, s ∈ after.lanes.openListeners ↔
    if IsTold h.registry s i then after.isSubscribed s = true else s ∈ h.lanes.openListeners

theorem announce_lanes {h : Hub} (curt : ∀ source ∈ h.sources, source.PartsInErrors)
    (i : Identifier) :
    let a := (h.interest i).foldl (Announcement.tell i) { hub := h }
    (h.announce i).lanes = (a.detached.foldl closeLane a.hub).lanes := by
  intro a
  obtain ⟨_, told⟩ := tellAll_eq i (h.interest i) { hub := h }
  obtain ⟨_, closed⟩ := closeLanes_eq a.hub a.detached
  apply releaseAll_unheard
  rw [closed, told]
  exact curt

theorem announce_fanout {h : Hub} (wired : h.Wired)
    (curt : ∀ source ∈ h.sources, source.PartsInErrors) (i : Identifier) :
    Fanout h i (h.announce i) := by
  let a := (h.interest i).foldl (Announcement.tell i) { hub := h }
  let fault : Event := .fault (.unplugged i)
  obtain ⟨_, _, _, announced⟩ := announce_eq h i
  have lanes := announce_lanes curt i
  have delivered : a.hub.lanes = h.lanes.deliverAll fault (h.interest i) :=
    tellAll_lanes i (h.interest i) { hub := h }
  have registry : (h.announce i).registry = h.unplugged i := congrArg Hub.registry announced
  have forgets : h.unplugged i =
      { unfiltered := [], filtered := h.registry.filtered.filter fun entry => !entry.1.agrees i } :=
    Registry.dismiss_interested Identifier.agrees h.registry i
  constructor
  · intro s
    have tells : Tells h.registry [fault] h.lanes a.hub.lanes := by
      rw [delivered]
      exact route_tells wired.sound wired.once fault
    rw [lanes, (closeLanes_tells tells a.detached).held]
    congr 1
    unfold toldTo
    rw [List.filter_singleton]
    exact Bool.cond_decide _ _ _
  · rw [registry, forgets]
  · unfold interest
    rw [registry, Registry.interested_eq_nil_iff]
    refine ⟨unplugged_unfiltered h i, ?_⟩
    intro entry entered
    exact (mem_unplugged.mp entered).2
  · intro s
    have left : s ∈ a.detached ↔
        s ∈ h.interest i ∧ (h.unplugged i).contains s = false := by
      rw [mem_tellAll_detached]
      exact or_iff_right List.not_mem_nil
    have still : (h.announce i).isSubscribed s = (h.unplugged i).contains s := by
      unfold isSubscribed
      rw [registry]
    rw [lanes, mem_openListeners_closeLanes, delivered,
      mem_openListeners_deliverAll wired.sound, left, still]
    by_cases told : IsTold h.registry s i
    · have interested : s ∈ h.interest i := isTold_iff.mp told
      rw [if_pos told]
      simp [interested]
    · have deaf : s ∉ h.interest i := fun interested => told (isTold_iff.mpr interested)
      rw [if_neg told]
      simp [deaf]

theorem announce_nobody {h : Hub} {i : Identifier} (nobody : h.interest i = []) :
    h.announce i = h := by
  unfold announce
  rw [nobody]
  rfl

/-- Announcing that a device is unplugged tells everyone who is interested once and nobody else. It
takes from the registry the entries without a filter and the filters that the device passes, and the
lanes of those who have no entry left then. Where nobody is interested nothing happens. -/
theorem run_fanout (config : Config) (moves : List Move) :
    let h := (fresh config).run moves
    (∀ source ∈ h.sources, source.PartsInErrors) →
      (∀ i, Fanout h i (h.announce i)) ∧
      (∀ i, h.interest i = [] → h.announce i = h) ∧
      ∀ index i, h.notices[index]? = some i →
        Fanout h i (h.move (.notify index)) ∧
          (h.interest i = [] →
            h.move (.notify index) = { h with notices := h.notices.eraseIdx index }) := by
  intro h curt
  have wired : h.Wired := run_wired config moves
  refine ⟨announce_fanout wired curt, fun i => announce_nobody, ?_⟩
  intro index i noted
  let taken : Hub := { h with notices := h.notices.eraseIdx index }
  have notified : h.move (.notify index) = taken.announce i := by
    change h.notify index = _
    unfold notify
    simp only [noted]
    rfl
  have still : taken.Wired := by
    have aside : Growth false h taken := .aside rfl rfl rfl
    exact ⟨aside.orderly wired.orderly, wired.sound, wired.once, wired.listening⟩
  obtain ⟨told, registry, forgotten, lanes⟩ := announce_fanout still curt i
  rw [notified]
  exact ⟨⟨told, registry, forgotten, lanes⟩, announce_nobody (h := taken)⟩

/-- Of three subscribers one has a filter on another device left and keeps its lane, one has nothing
left and loses it, and one is not concerned. -/
theorem run_fanout_two_devices :
    let curt : Opening := fun _ _ => .ok { lastWords := [.error "gone"] }
    let site : Site := { quietSite [⟨none, "a"⟩, ⟨none, "b"⟩] with opening := curt }
    let h := (fresh {}).run [.subscribeTo site (.ofPortName "a") "u",
      .subscribeTo site (.ofPortName "b") "u", .subscribeTo site (.ofPortName "a") "v",
      .subscribeTo site (.ofPortName "b") "w", .disappeared ⟨none, "a"⟩]
    let after := h.move (.notify 0)
    let fault : Event := .fault (.unplugged (.ofPort none "a"))
    let held (h : Hub) (name : String) := h.lanes.heldFor (.listener name)
    held after "u" = held h "u" ++ [fault] ∧ held after "v" = held h "v" ++ [fault] ∧
      held after "w" = held h "w" ∧
      .listener "u" ∈ after.lanes.openListeners ∧ .listener "v" ∉ after.lanes.openListeners := by
  intro curt site h after fault held
  have words : ∀ source ∈ h.sources, source.PartsInErrors := by
    intro source member signal said
    have ledger : ∀ source ∈ h.sources, source.script.lastWords = [.error "gone"] := by decide
    have only := ledger source member
    rw [only] at said
    exact ⟨"gone", List.mem_singleton.mp said⟩
  have noted : h.notices[0]? = some (.ofPort none "a") := by decide
  obtain ⟨told, _, _, lanes⟩ := ((run_fanout {} _ words).2.2 0 _ noted).1
  have left : after.isSubscribed (.listener "u") = true ∧
      after.isSubscribed (.listener "v") = false := by decide
  refine ⟨?_, ?_, ?_, ?_, ?_⟩
  · exact (told _).trans (congrArg (held h "u" ++ ·) (if_pos (by decide)))
  · exact (told _).trans (congrArg (held h "v" ++ ·) (if_pos (by decide)))
  · have nothing := (told (.listener "w")).trans
      (congrArg (held h "w" ++ ·) (if_neg (by decide)))
    exact nothing.trans (List.append_nil _)
  · rw [lanes, if_pos (by decide)]
    exact left.1
  · rw [lanes, if_pos (by decide), left.2]
    exact Bool.false_ne_true

end Hub

end MeterHub
