import MeterHub.Proofs.Hub.Entries
import MeterHub.Proofs.Hub.Greeting

/-!
What sources say in a move, and to whom it goes. Sources speak when they report, while they are
opened and while they are stopped. Nothing but this and the faults of unplugged devices is ever
queued.
-/

set_option autoImplicit false
set_option relaxedAutoImplicit false

namespace MeterHub

/-- Whether a move lets a callback come to its end. -/
def Move.finishes : Move → Bool
  | .finish _ _ => true
  | _ => false

namespace Hub

/-- What sources say in a move: a live one reports, one is opened, also where its start then fails,
and that of a session that goes is stopped. -/
inductive Speaks (h : Hub) (m : Move) : Speech → Prop
  | reports {live : Live} {signal : Signal} (member : live ∈ h.sessions)
      (said : m.said live.source = some signal) :
      Speaks h m ⟨live.source, live.session, [signal]⟩
  | greets {index : Nat} {source : Source}
      (new : h.sources.length ≤ index) (entered : (h.move m).sources[index]? = some source) :
      Speaks h m
        ⟨index, starting h.config source.port source.mode, source.script.firstWords⟩
  | parts {live : Live} {source : Source} (member : live ∈ h.sessions)
      (entered : h.sources[live.source]? = some source)
      (unlisted : live.source ∉ (h.move m).sessions.map Live.source) :
      Speaks h m ⟨live.source, live.session, source.script.lastWords⟩

/-- The faults that a move sends by itself: that of a device whose unplugging is announced. -/
def announcements (h : Hub) : Move → List Event
  | .notify index => (h.notices[index]?.map fun i => Event.fault (.unplugged i)).toList
  | _ => []

/-- The registry in which a move has entered whoever asks for a session. -/
def entering (h : Hub) : Move → Registry Identifier Subscriber
  | .subscribeTo _ key name => (h.registry.subscribeTo key (.listener name)).2
  | .beginRead _ key _ => (h.registry.subscribeTo key (.reader h.reads.length)).2
  | _ => h.registry

/-- The registry that decides who is told what sources say in a move. Entries are made and taken
back before anyone speaks, except that a hub that stops forgets everyone at the end, and that the
entry of someone for whom no session can be had is taken back at the end. -/
def audience (h : Hub) : Move → Registry Identifier Subscriber
  | .stop => h.registry
  | .subscribeTo site key name => h.entering (.subscribeTo site key name)
  | .beginRead site key timeout => h.entering (.beginRead site key timeout)
  | m => (h.move m).registry

/-- All that sources say in a move, and how it is queued. Each event carries the identifier that the
session knows after the signal that it is made of. For each subscriber the announced faults and then
the events that are for it come behind what was queued before. -/
structure Routed (h : Hub) (m : Move) (speeches : List Speech) : Prop where
  distinct : (speeches.map Speech.source).Nodup
  complete : ∀ speech, speech ∈ speeches ↔ Speaks h m speech
  stamped : ∀ speech ∈ speeches, ∀ place event, speech.events[place]? = some event →
    event.identifier = speech.session.identifier.learnAll (speech.signals.take (place + 1))
  told : ∀ s, ∃ left, left.Sublist (h.lanes.heldFor s) ∧
    (m.finishes = false → left = h.lanes.heldFor s) ∧
    (h.move m).lanes.heldFor s =
      left ++ toldTo h.registry s (h.announcements m) ++
        toldTo (h.audience m) s (speeches.flatMap Speech.events)

/-- What routing rests on: sources are not shared, lanes are sound, nobody is entered twice without
a filter, and the hub listens to its sessions. -/
structure Wired (h : Hub) : Prop where
  orderly : h.Orderly
  sound : h.lanes.Sound
  once : h.registry.unfiltered.Nodup
  listening : h.Listening

/-- A move has kept the lanes sound and the hub listening, and has routed what was said. -/
structure Carried (h : Hub) (m : Move) : Prop where
  sound : (h.move m).lanes.Sound
  listening : (h.move m).Listening
  routed : ∃ speeches, Routed h m speeches

theorem events_stamped (speech : Speech) (place : Nat) (event : Event)
    (told : speech.events[place]? = some event) :
    event.identifier = speech.session.identifier.learnAll (speech.signals.take (place + 1)) :=
  Session.hearAll_stamp speech.session speech.signals told

theorem Carried.aside {h : Hub} {m : Move} (silent : ∀ index, m.said index = none)
    (unannounced : h.announcements m = []) (sources : (h.move m).sources = h.sources)
    (sessions : (h.move m).sessions = h.sessions) (listening : h.Listening)
    (sound : (h.move m).lanes.Sound)
    (fewer : ∀ s, ((h.move m).lanes.heldFor s).Sublist (h.lanes.heldFor s))
    (same : m.finishes = false → ∀ s, (h.move m).lanes.heldFor s = h.lanes.heldFor s) :
    Carried h m := by
  have nobody (speech : Speech) : ¬Speaks h m speech := by
    intro speaks
    cases speaks with
    | reports member said =>
      rw [silent] at said
      cases said
    | greets new entered =>
      rw [sources, List.getElem?_eq_none new] at entered
      cases entered
    | parts member entered unlisted =>
      rw [sessions] at unlisted
      exact unlisted (List.mem_map_of_mem member)
  refine ⟨sound, listening.sublist (sessions ▸ .refl _), [], List.nodup_nil, ?_,
    fun speech _ => events_stamped speech, ?_⟩
  · intro speech
    exact iff_of_false List.not_mem_nil (nobody speech)
  · intro s
    refine ⟨(h.move m).lanes.heldFor s, fewer s, fun kind => same kind s, ?_⟩
    rw [unannounced]
    exact ((List.append_nil _).trans (List.append_nil _)).symm

theorem Carried.of_same {h : Hub} {m : Move} (wired : h.Wired) (nothing : h.move m = h)
    (silent : ∀ index, m.said index = none) (unannounced : h.announcements m = []) :
    Carried h m := by
  apply Carried.aside silent unannounced
  · rw [nothing]
  · rw [nothing]
  · exact wired.listening
  · rw [nothing]
    exact wired.sound
  · intro s
    rw [nothing]
  · intro _ s
    rw [nothing]

theorem takeUp_lanes (h : Hub) (lane : Nat) :
    (h.takeUp lane).lanes = h.lanes ∨ (h.takeUp lane).lanes = h.lanes.take lane := by
  unfold takeUp
  split
  · rename_i subscriber event _
    cases subscriber <;> exact .inr rfl
  · exact .inl rfl

theorem takeUp_carried {h : Hub} (wired : h.Wired) (lane : Nat) : Carried h (.takeUp lane) := by
  obtain ⟨_, _, taken, _⟩ := h.takeUp_eq lane
  have lanes : (h.move (.takeUp lane)).lanes.Sound ∧
      ∀ s, (h.move (.takeUp lane)).lanes.heldFor s = h.lanes.heldFor s := by
    change (h.takeUp lane).lanes.Sound ∧ ∀ s, (h.takeUp lane).lanes.heldFor s = _
    rcases h.takeUp_lanes lane with same | up
    · rw [same]
      exact ⟨wired.sound, fun _ => rfl⟩
    · rw [up]
      exact ⟨wired.sound.take lane, h.lanes.heldFor_take lane⟩
  apply Carried.aside (fun _ => rfl) rfl
  · exact (congrArg Hub.sources taken :)
  · exact (congrArg Hub.sessions taken :)
  · exact wired.listening
  · exact lanes.1
  · exact fun s => lanes.2 s ▸ .refl _
  · exact fun _ => lanes.2

theorem finish_carried {h : Hub} (wired : h.Wired) (lane : Nat) (panicked : Bool) :
    Carried h (.finish lane panicked) := by
  apply Carried.aside (fun _ => rfl) rfl rfl rfl wired.listening
  · exact wired.sound.finish lane panicked
  · exact h.lanes.heldFor_finish lane panicked
  · intro finishes
    cases finishes

theorem Carried.greets {h : Hub} {m : Move} {new : List Source} {reading : Bool}
    {r : Registry Identifier Subscriber} (silent : ∀ index, m.said index = none)
    (unannounced : h.announcements m = []) (audience : h.audience m = r)
    (grows : Grows reading h (h.move m)) (greets : Greets r new h (h.move m))
    (listening : (h.move m).Listening) : Carried h m := by
  obtain ⟨_, sources, tells⟩ := greets
  refine ⟨tells.sound, listening, greetings h.config h.sources.length new,
    greetings_nodup h.config h.sources.length new, ?_, fun speech _ => events_stamped speech, ?_⟩
  · intro speech
    rw [mem_greetings]
    constructor
    · rintro ⟨source, later, entered, said⟩
      have listed : (h.move m).sources[speech.source]? = some source := by
        rw [sources, List.getElem?_append_right later]
        exact entered
      rw [← said]
      exact .greets later listed
    · intro speaks
      cases speaks with
      | reports member said =>
        rw [silent] at said
        cases said
      | greets later entered =>
        rw [sources, List.getElem?_append_right later] at entered
        exact ⟨_, later, entered, rfl⟩
      | parts member entered unlisted =>
        -- growth loses no session
        obtain ⟨after, listed, continues⟩ := grows.continued member
        rw [← continues.source] at unlisted
        exact (unlisted (List.mem_map_of_mem listed)).elim
  · intro s
    refine ⟨h.lanes.heldFor s, .refl _, fun _ => rfl, ?_⟩
    rw [unannounced, audience, tells.held]
    exact congrArg (· ++ _) (List.append_nil _).symm

theorem appeared_carried {h : Hub} (wired : h.Wired) (site : Site) (port : Port) :
    Carried h (.appeared site port) := by
  obtain ⟨new, greets⟩ := appeared_greets wired.sound wired.once site port false
  have registry : h.audience (.appeared site port) = h.registry :=
    (h.appeared_readers site port false).1
  exact .greets (fun _ => rfl) rfl registry (.single (appeared_growth h site port false)) greets
    (appeared_listening wired.listening site port false)

theorem start_carried {h : Hub} (wired : h.Wired) (site : Site) : Carried h (.start site) := by
  obtain ⟨new, greets⟩ := start_greets wired.sound wired.once site
  have registry : h.audience (.start site) = h.registry := (h.start_readers site).1
  exact .greets (fun _ => rfl) rfl registry (start_grows h site) greets
    (start_listening wired.listening site)

theorem subscribeTo_carried {h : Hub} (wired : h.Wired) (site : Site) (key : Identifier)
    (name : String) : Carried h (.subscribeTo site key name) := by
  obtain ⟨new, greets⟩ := attach_greets wired.sound wired.once site key (.listener name)
  have listening := (attach_attaches h site key (.listener name)).listening wired.listening
  have growth := subscribeTo_growth h site key (.listener name)
  rw [← subscribeTo_eq] at greets listening
  exact .greets (fun _ => rfl) rfl rfl (.single growth) greets listening

theorem beginRead_carried {h : Hub} (wired : h.Wired) (site : Site) (key : Identifier)
    (timeout : Option Span) : Carried h (.beginRead site key timeout) := by
  have bounded : ∀ live ∈ h.sessions, live.source < h.sources.length :=
    fun live member => wired.orderly.bounded member
  have begins := beginRead_begins bounded site key timeout
  obtain ⟨new, greets⟩ := beginRead_greets wired.sound wired.once site key timeout
  exact .greets (fun _ => rfl) rfl rfl (.single begins.growth) greets
    (begins.listening wired.listening)

theorem Orderly.parting_eq {h : Hub} (orderly : h.Orderly) {live : Live} (member : live ∈ h.sessions)
    {source : Source} (entered : h.sources[live.source]? = some source) :
    parting h.sources live = ⟨live.source, live.session, source.script.lastWords⟩ := by
  obtain ⟨own, owned, acquires⟩ := orderly.acquired live member
  rw [owned, Option.some.injEq] at entered
  subst entered
  have words : own.stop.1 = own.script.lastWords := if_pos acquires.linked
  unfold parting
  rw [owned, Option.map_some, Option.getD_some, words]

theorem Carried.closes {h : Hub} {m : Move} (gone : Live → Bool) {closed : List Live}
    {between : Lanes Subscriber} (wired : h.Wired) (silent : ∀ index, m.said index = none)
    (closes : Closes gone h (h.move m)) (perm : closed.Perm (h.sessions.filter gone))
    (announced : Tells h.registry (h.announcements m) h.lanes between)
    (tells : Tells (h.audience m) ((closed.map (parting h.sources)).flatMap Speech.events) between
      (h.move m).lanes) : Carried h m := by
  have kept : (h.move m).sessions.Sublist h.sessions := closes.sessions ▸ List.filter_sublist
  refine ⟨tells.sound, wired.listening.sublist kept, closed.map (parting h.sources), ?_, ?_,
    fun speech _ => events_stamped speech, ?_⟩
  · have indices : (closed.map (parting h.sources)).map Speech.source = closed.map Live.source :=
      List.map_map
    rw [indices, (perm.map Live.source).nodup_iff]
    exact wired.orderly.distinct.sublist (List.filter_sublist.map Live.source)
  · intro speech
    rw [List.mem_map]
    constructor
    · rintro ⟨live, member, rfl⟩
      obtain ⟨listed, doomed⟩ := List.mem_filter.mp (perm.mem_iff.mp member)
      obtain ⟨source, entered, _⟩ := wired.orderly.acquired live listed
      rw [wired.orderly.parting_eq listed entered]
      refine .parts listed entered ?_
      rw [closes.sessions]
      exact (wired.orderly.unlisted_iff listed).mpr doomed
    · intro speaks
      cases speaks with
      | reports member said =>
        rw [silent] at said
        cases said
      | greets new entered =>
        have length : (h.move m).sources.length = h.sources.length := by
          rw [closes.sources, length_silenceAll]
        rw [List.getElem?_eq_none (length ▸ new)] at entered
        cases entered
      | @parts live source listed entered unlisted =>
        rw [closes.sessions] at unlisted
        have doomed := (wired.orderly.unlisted_iff listed).mp unlisted
        exact ⟨live, perm.mem_iff.mpr (List.mem_filter.mpr ⟨listed, doomed⟩),
          wired.orderly.parting_eq listed entered⟩
  · intro s
    refine ⟨h.lanes.heldFor s, .refl _, fun _ => rfl, ?_⟩
    rw [tells.held, announced.held]

theorem unsubscribe_carried {h : Hub} (wired : h.Wired) (name : String) :
    Carried h (.unsubscribe name) := by
  let left : Hub := { h with registry := h.registry.without (.listener name) }
  have once : left.registry.unfiltered.Nodup := wired.once.sublist List.filter_sublist
  obtain ⟨closed, perm, tells⟩ := releaseAll_tells (h := left) wired.sound once wired.listening
    wired.orderly.distinct (h.registry.keysOf (.listener name))
  obtain ⟨_, unsubscribed⟩ := h.unsubscribe_eq (.listener name)
  have registry : h.audience (.unsubscribe name) = h.registry.without (.listener name) :=
    (congrArg Hub.registry unsubscribed :)
  refine .closes _ wired (fun _ => rfl) ?_ perm (.refl wired.sound) ?_
  · change Closes _ h (h.unsubscribe (.listener name))
    rw [unsubscribed]
    exact ⟨rfl, rfl, rfl⟩
  · rw [registry]
    exact tells.close (.listener name)

theorem unsubscribeFrom_carried {h : Hub} (wired : h.Wired) (key : Identifier) (name : String) :
    Carried h (.unsubscribeFrom key name) := by
  let s : Subscriber := .listener name
  let left : Hub := { h with registry := (h.registry.unsubscribeFrom key s).2 }
  have tells := release_tells (h := left) wired.sound wired.once wired.listening
    wired.orderly.distinct key false
  have unused : left.isUnused key false = isSpare (h.registry.unsubscribeFrom key s).2 [key] := by
    rw [isUnused_eq]
    rfl
  rw [unused] at tells
  obtain ⟨_, unsubscribed⟩ := h.unsubscribeFrom_eq key s
  have registry : h.audience (.unsubscribeFrom key name) = (h.registry.unsubscribeFrom key s).2 :=
    (congrArg Hub.registry unsubscribed :)
  refine .closes (isSpare (h.registry.unsubscribeFrom key s).2 [key]) wired (fun _ => rfl) ?_
    (.refl _) (.refl wired.sound) ?_
  · change Closes _ h (h.unsubscribeFrom key s)
    rw [unsubscribed]
    exact ⟨rfl, rfl, rfl⟩
  · rw [registry]
    change Tells _ _ h.lanes (h.unsubscribeFrom key s).lanes
    unfold unsubscribeFrom
    dsimp only
    split
    · exact tells
    · exact tells.close s

theorem endRead_carried {h : Hub} (wired : h.Wired) (index : Nat) : Carried h (.endRead index) := by
  rcases h.endRead_cases index with nothing | ⟨read, at_index, pending⟩
  · exact .of_same wired nothing (fun _ => rfl) rfl
  · let s : Subscriber := .reader index
    let left : Hub :=
      { h with registry := (h.registry.unsubscribeFrom read.key s).2, lanes := h.lanes.close s }
    have closed : Tells left.registry [] h.lanes left.lanes :=
      (Tells.refl wired.sound).close s
    have tells := release_tells (h := left) closed.sound wired.once wired.listening
      wired.orderly.distinct read.key true
    have unused : left.isUnused read.key true = fun live => live.session.ephemeral &&
        isSpare (h.registry.unsubscribeFrom read.key s).2 [read.key] live := by
      rw [isUnused_eq]
      rfl
    rw [unused] at tells
    obtain ⟨_, ended⟩ := endRead_eq at_index pending
    have registry : h.audience (.endRead index) = (h.registry.unsubscribeFrom read.key s).2 :=
      (congrArg Hub.registry ended :)
    let gone (live : Live) : Bool := live.session.ephemeral &&
      isSpare (h.registry.unsubscribeFrom read.key s).2 [read.key] live
    refine .closes gone wired (fun _ => rfl) ?_ (.refl _) (.refl wired.sound) ?_
    · change Closes _ h (h.endRead index)
      rw [ended]
      exact ⟨rfl, rfl, rfl⟩
    · rw [registry]
      have lanes : (h.endRead index).lanes = (left.release read.key true).lanes := by
        unfold endRead
        simp only [at_index, pending, if_true]
        rfl
      change Tells _ _ h.lanes (h.endRead index).lanes
      rw [lanes]
      exact closed.trans tells

theorem disappeared_tells {h : Hub} (wired : h.Wired) (port : Port) :
    Tells h.registry
      (((h.sessions.filter fun live => live.port.same port).map (parting h.sources)).flatMap
        Speech.events)
      h.lanes (h.disappeared port).lanes := by
  let kept : Hub := { h with sessions := h.sessions.filter fun live => !live.port.same port }
  apply stopSessions_tells (h := kept) wired.sound wired.once
  · intro live member
    exact wired.listening live (List.mem_filter.mp member).1
  · exact wired.orderly.distinct.sublist (List.filter_sublist.map Live.source)

theorem disappeared_carried {h : Hub} (wired : h.Wired) (port : Port) :
    Carried h (.disappeared port) := by
  have registry : h.audience (.disappeared port) = h.registry := (h.disappeared_readers port).1
  refine .closes _ wired (fun _ => rfl) (disappeared_closes h port) (.refl _) (.refl wired.sound)
    ?_
  rw [registry]
  exact disappeared_tells wired port

theorem consume_carried {h : Hub} (wired : h.Wired) (site : Site) : Carried h (.consume site) := by
  have registry : h.audience (.consume site) = h.registry := (h.consume_readers site).1
  rcases h.consume_cases site with nothing | ⟨poller, change, rest, _, _, consumed⟩
  · exact .of_same wired nothing (fun _ => rfl) rfl
  · let drained : Hub := { h with poller := some { poller with queue := rest } }
    have first : Growth false h drained := .aside rfl rfl rfl
    have still : drained.Wired :=
      ⟨first.orderly wired.orderly, wired.sound, wired.once, wired.listening⟩
    have moved : h.move (.consume site) = drained.handle site change := consumed
    cases change with
    | appeared port =>
      obtain ⟨new, config, sources, tells⟩ :=
        appeared_greets still.sound still.once site port true
      have grows : Grows false h (h.move (.consume site)) := by
        rw [moved]
        exact .head first (.single (appeared_growth drained site port true))
      have greets : Greets h.registry new h (h.move (.consume site)) := by
        rw [moved]
        exact ⟨config, sources, tells⟩
      refine .greets (fun _ => rfl) rfl registry grows greets ?_
      rw [moved]
      exact appeared_listening still.listening site port true
    | disappeared port =>
      obtain ⟨config, sessions, sources⟩ := disappeared_closes drained port
      refine .closes (fun live => live.port.same port) wired (fun _ => rfl) ?_ (.refl _)
        (.refl wired.sound) ?_
      · rw [moved]
        exact ⟨config, sessions, sources⟩
      · rw [registry, moved]
        exact disappeared_tells still port

theorem stop_carried {h : Hub} (wired : h.Wired) : Carried h .stop := by
  by_cases running : h.running = true
  · let stopping : Hub := { h with running := false, poller := none, sessions := [] }
    have tells := stopSessions_tells (h := stopping) wired.sound wired.once wired.listening
      wired.orderly.distinct
    obtain ⟨_, stopped⟩ := stop_eq running
    have all : h.sessions.Perm (h.sessions.filter fun _ => true) := by simp
    refine .closes (fun _ => true) wired (fun _ => rfl) ?_ all (.refl wired.sound) ?_
    · change Closes _ h h.stop
      rw [stopped]
      exact ⟨rfl, by simp, by simp⟩
    · have lanes : h.stop.lanes = (stopping.stopSessions h.sessions).2.lanes.closeAll := by
        unfold stop
        rw [if_pos running]
      change Tells h.registry _ h.lanes h.stop.lanes
      rw [lanes]
      exact tells.closeAll
  · exact .of_same wired (if_neg running) (fun _ => rfl) rfl

theorem discard_carried {h : Hub} (wired : h.Wired) : Carried h .discard := by
  by_cases held : h.isHeld = true
  · exact .of_same wired (if_pos held) (fun _ => rfl) rfl
  · have given : h.move .discard = h.discard := if_neg held
    have all : h.sessions.Perm (h.sessions.filter fun _ => true) := by simp
    have registry : h.audience .discard = {} := by
      change (h.move .discard).registry = {}
      rw [given]
      rfl
    refine .closes (fun _ => true) wired (fun _ => rfl) ?_ all (.refl wired.sound) ?_
    · rw [given]
      exact ⟨rfl, by simp [discard], by simp [discard]⟩
    · rw [registry, given]
      refine ⟨wired.sound.closeAll, ?_⟩
      intro s
      have deaf : toldTo {} s ((h.sessions.map (parting h.sources)).flatMap Speech.events) = [] := by
        apply toldTo_eq_nil
        rintro event _ (listed | ⟨key, entered, _⟩)
        · cases listed
        · cases entered
      rw [deaf, List.append_nil]
      exact h.lanes.heldFor_closeAll s

theorem notify_carried {h : Hub} (wired : h.Wired) (index : Nat) : Carried h (.notify index) := by
  cases noted : h.notices[index]? with
  | none =>
    have unannounced : h.announcements (.notify index) = [] := by
      change (h.notices[index]?.map _).toList = []
      rw [noted]
      rfl
    exact .of_same wired (notify_absent noted) (fun _ => rfl) unannounced
  | some i =>
    let taken : Hub := { h with notices := h.notices.eraseIdx index }
    obtain ⟨keys, closed, between, ⟨config, sessions, sources⟩, perm, announced, tells⟩ :=
      announce_tells (h := taken) wired.sound wired.once wired.listening wired.orderly.distinct i
    have notified : h.move (.notify index) = taken.announce i := by
      change h.notify index = _
      unfold notify
      simp only [noted]
      rfl
    have fault : h.announcements (.notify index) = [.fault (.unplugged i)] := by
      change (h.notices[index]?.map _).toList = _
      rw [noted]
      rfl
    obtain ⟨_, _, _, state⟩ := notify_eq noted
    have registry : h.audience (.notify index) = h.unplugged i := (congrArg Hub.registry state :)
    have closes : Closes (isSpare (h.unplugged i) keys) h (h.move (.notify index)) := by
      rw [notified]
      exact ⟨config, sessions, sources⟩
    refine .closes _ wired (fun _ => rfl) closes perm (fault ▸ announced) ?_
    rw [registry, notified]
    exact tells

theorem Orderly.find_source {h : Hub} (orderly : h.Orderly) {live : Live}
    (member : live ∈ h.sessions) :
    h.sessions.find? (fun other => other.source == live.source) = some live := by
  cases found : h.sessions.find? fun other => other.source == live.source with
  | none =>
    have never := List.find?_eq_none.mp found live member
    exact absurd (beq_self_eq_true live.source) never
  | some other =>
    have listed : other ∈ h.sessions := List.mem_of_find?_eq_some found
    have same : other.source = live.source := by simpa using List.find?_some found
    rw [orderly.of_source_eq listed member same]

theorem report_tells {h : Hub} (wired : h.Wired) {live : Live} (member : live ∈ h.sessions)
    (signal : Signal) :
    Tells h.registry [(live.session.hear signal).1] h.lanes
      (h.report live.source signal).lanes := by
  have listening : (live.session.hear signal).2.listeners = [.hub] := by
    obtain ⟨_, heard⟩ := Session.hear_eq live.session signal
    rw [heard]
    exact wired.listening live member
  unfold report
  simp only [wired.orderly.find_source member]
  exact publish_tells (h := h.modifySession live.source fun _ => (live.session.hear signal).2)
    wired.sound wired.once listening [(live.session.hear signal).1]

theorem report_absent {h : Hub} {index : Nat} (absent : index ∉ h.sessions.map Live.source)
    (signal : Signal) : h.report index signal = h := by
  have none : h.sessions.find? (fun live => live.source == index) = none := by
    apply List.find?_eq_none.mpr
    intro live member same
    have own : live.source = index := by simpa using same
    exact absent (own ▸ List.mem_map_of_mem member)
  unfold report
  rw [none]

theorem speaks_report_iff {h : Hub} (wired : h.Wired) {index : Nat} {signal : Signal}
    {speech : Speech} :
    Speaks h (.report index signal) speech ↔
      ∃ live ∈ h.sessions, live.source = index ∧
        speech = ⟨live.source, live.session, [signal]⟩ := by
  obtain ⟨_, reported⟩ := report_eq wired.orderly.distinct index signal
  constructor
  · intro speaks
    cases speaks with
    | @reports live heard member said =>
      by_cases own : live.source = index
      · have same : signal = heard := Option.some.inj ((if_pos own).symm.trans said)
        exact ⟨live, member, own, same ▸ rfl⟩
      · have silent : (Move.report index signal).said live.source = none := if_neg own
        rw [silent] at said
        cases said
    | @greets place source new entered =>
      change (h.report index signal).sources[place]? = some source at entered
      rw [reported, List.getElem?_eq_none new] at entered
      cases entered
    | @parts live source member entered unlisted =>
      change live.source ∉ (h.report index signal).sessions.map Live.source at unlisted
      rw [reported, map_hears_source] at unlisted
      exact (unlisted (List.mem_map_of_mem member)).elim
  · rintro ⟨live, member, own, rfl⟩
    exact .reports member (if_pos own)

theorem report_carried {h : Hub} (wired : h.Wired) (index : Nat) (signal : Signal) :
    Carried h (.report index signal) := by
  have listening := report_listening wired.orderly wired.listening index signal
  by_cases listed : index ∈ h.sessions.map Live.source
  · obtain ⟨live, member, rfl⟩ := List.mem_map.mp listed
    have tells := report_tells wired member signal
    let speech : Speech := ⟨live.source, live.session, [signal]⟩
    have registry : (h.report live.source signal).registry = h.registry := by
      obtain ⟨_, reported⟩ := report_eq wired.orderly.distinct live.source signal
      rw [reported]
    refine ⟨tells.sound, listening, [speech], List.nodup_singleton _, ?_,
      fun speech _ => events_stamped speech, ?_⟩
    · intro other
      rw [List.mem_singleton, speaks_report_iff wired]
      constructor
      · rintro rfl
        exact ⟨live, member, rfl, rfl⟩
      · rintro ⟨same, there, own, rfl⟩
        rw [wired.orderly.of_source_eq there member own]
    · intro s
      refine ⟨h.lanes.heldFor s, .refl _, fun _ => rfl, ?_⟩
      have audience : h.audience (.report live.source signal) = h.registry := registry
      have told := tells.held s
      rw [audience]
      exact told.trans (congrArg (· ++ _) (List.append_nil _).symm)
  · have same := report_absent listed signal
    refine ⟨?_, listening, [], List.nodup_nil, ?_, fun speech _ => events_stamped speech, ?_⟩
    · change (h.report index signal).lanes.Sound
      rw [same]
      exact wired.sound
    · intro speech
      rw [speaks_report_iff wired]
      refine iff_of_false List.not_mem_nil ?_
      rintro ⟨live, member, own, _⟩
      exact listed (own ▸ List.mem_map_of_mem member)
    · intro s
      refine ⟨h.lanes.heldFor s, .refl _, fun _ => rfl, ?_⟩
      change (h.report index signal).lanes.heldFor s = _
      rw [same]
      exact ((List.append_nil _).trans (List.append_nil _)).symm

theorem move_carried {h : Hub} (wired : h.Wired) (m : Move) : Carried h m := by
  have unchanged {m : Move} (silent : ∀ index, m.said index = none)
      (unannounced : h.announcements m = []) (sources : (h.move m).sources = h.sources)
      (sessions : (h.move m).sessions = h.sessions) (lanes : (h.move m).lanes = h.lanes) :
      Carried h m := by
    apply Carried.aside silent unannounced sources sessions wired.listening
    · exact lanes ▸ wired.sound
    · exact fun s => lanes ▸ .refl _
    · exact fun _ s => lanes ▸ rfl
  cases m with
  | start site => exact start_carried wired site
  | stop => exact stop_carried wired
  | subscribe name => exact unchanged (fun _ => rfl) rfl rfl rfl rfl
  | unsubscribe name => exact unsubscribe_carried wired name
  | subscribeTo site key name => exact subscribeTo_carried wired site key name
  | unsubscribeFrom key name => exact unsubscribeFrom_carried wired key name
  | appeared site port => exact appeared_carried wired site port
  | disappeared port => exact disappeared_carried wired port
  | beginRead site key timeout => exact beginRead_carried wired site key timeout
  | endRead index => exact endRead_carried wired index
  | report source signal => exact report_carried wired source signal
  | notify index => exact notify_carried wired index
  | poll ports => exact unchanged (fun _ => rfl) rfl rfl rfl rfl
  | refill => exact unchanged (fun _ => rfl) rfl rfl rfl rfl
  | consume site => exact consume_carried wired site
  | takeUp lane => exact takeUp_carried wired lane
  | finish lane panicked => exact finish_carried wired lane panicked
  | discard => exact discard_carried wired

theorem move_wired {h : Hub} (wired : h.Wired) (m : Move) : (h.move m).Wired := by
  have carried := move_carried wired m
  exact ⟨move_orderly wired.orderly m, carried.sound, (move_enters wired.orderly m).once wired.once,
    carried.listening⟩

theorem run_wired (config : Config) (moves : List Move) : ((fresh config).run moves).Wired := by
  refine run_induct (fun _ => True) Wired ?_ (fun h m _ _ wired => move_wired wired m)
    fun _ _ => trivial
  exact ⟨fresh_orderly config, Lanes.empty_sound, List.nodup_nil, List.forall_mem_nil _⟩

end Hub

end MeterHub
