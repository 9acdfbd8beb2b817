import Mathlib.Data.List.Perm.Subperm
import MeterHub.Proofs.Hub.Tending
import MeterHub.Proofs.Lanes.History

/-!
Who has an open lane. Every move tends the lanes in keeping with the registries before and after it,
and whoever loses its last entry in the move is left without an open lane. Hence no lane is ever
leaked: each subscriber has one open lane at most, and none without an entry.
-/

set_option autoImplicit false
set_option relaxedAutoImplicit false

namespace MeterHub

/-- Whether a move is the work of a lane. -/
def Move.isWork : Move → Bool
  | .takeUp _ | .finish _ _ => true
  | _ => false

namespace Hub

theorem contains_subscribe {r : Registry Identifier Subscriber} {s t : Subscriber}
    (entered : r.contains t = true) : (r.subscribe s).2.contains t = true := by
  unfold Registry.subscribe
  split
  · exact entered
  · rw [Registry.contains_iff] at entered ⊢
    exact entered.imp_left (List.mem_append_left _)

theorem contains_subscribeTo_iff {r : Registry Identifier Subscriber} {key : Identifier}
    {s t : Subscriber} :
    (r.subscribeTo key s).2.contains t = true ↔ r.contains t = true ∨ t = s := by
  rw [Registry.contains_iff, Registry.contains_iff, Registry.subscribeTo_unfiltered]
  simp only [Registry.mem_subscribeTo, Prod.mk.injEq, exists_or, exists_eq_left, or_assoc]

theorem contains_unsubscribeFrom {r : Registry Identifier Subscriber} {key : Identifier}
    {s t : Subscriber} (other : t ≠ s) (entered : r.contains t = true) :
    (r.unsubscribeFrom key s).2.contains t = true := by
  rw [Registry.contains_iff] at entered ⊢
  refine entered.imp_right ?_
  rintro ⟨wanted, listed⟩
  refine ⟨wanted, Registry.mem_unsubscribeFrom.mpr ⟨listed, ?_⟩⟩
  intro same
  exact other (Prod.mk.inj same).2

theorem contains_without {r : Registry Identifier Subscriber} {s t : Subscriber} :
    (r.without s).contains t = true ↔ r.contains t = true ∧ t ≠ s := by
  rw [Registry.contains_iff, Registry.contains_iff]
  simp only [Registry.mem_without]
  have unfiltered : t ∈ (r.without s).unfiltered ↔ t ∈ r.unfiltered ∧ t ≠ s := by
    simp [Registry.without]
  rw [unfiltered]
  constructor
  · rintro (⟨listed, other⟩ | ⟨key, listed, other⟩)
    · exact ⟨.inl listed, other⟩
    · exact ⟨.inr ⟨key, listed⟩, other⟩
  · rintro ⟨listed | ⟨key, listed⟩, other⟩
    · exact .inl ⟨listed, other⟩
    · exact .inr ⟨key, listed, other⟩

theorem Awaits.eq {h : Hub} {index : Nat} {read other : Read} (awaits : h.Awaits index read)
    (at_index : h.reads[index]? = some other) : read = other :=
  Option.some.inj (awaits.at_index.symm.trans at_index)

/-- Every reader in the registry is a read under way, and none has an entry without a filter. -/
structure Registered (h : Hub) : Prop where
  enrolled : h.Enrolled
  filtered : ∀ index, Subscriber.reader index ∉ h.registry.unfiltered

theorem Registered.contains_reader {h : Hub} (registered : h.Registered) {index : Nat} :
    h.registry.contains (.reader index) = true ↔ ∃ read, h.Awaits index read := by
  rw [Registry.contains_iff, or_iff_right (registered.filtered index)]
  constructor
  · rintro ⟨key, entered⟩
    obtain ⟨read, awaits, _⟩ := registered.enrolled key index entered
    exact ⟨read, awaits⟩
  · rintro ⟨read, awaits⟩
    exact ⟨read.key, awaits.entered⟩

theorem move_registered {h : Hub} (orderly : h.Orderly) (registered : h.Registered) (m : Move) :
    (h.move m).Registered := by
  refine ⟨(move_enrolment orderly m).enrolled registered.enrolled, ?_⟩
  intro index listed
  have none := registered.filtered index
  cases move_enters orderly m with
  | unfiltered asked registry =>
    rw [registry] at listed
    unfold Registry.subscribe at listed
    split at listed
    · exact none listed
    · rcases List.mem_append.mp listed with old | new
      · exact none old
      · cases List.mem_singleton.mp new
  | filtered asked registry =>
    rw [registry, Registry.subscribeTo_unfiltered] at listed
    exact none listed
  | read begins registry =>
    rw [registry, Registry.subscribeTo_unfiltered] at listed
    exact none listed
  | fewer unfiltered filtered => exact none (unfiltered.subset listed)

theorem run_registered (config : Config) (moves : List Move) :
    ((fresh config).run moves).Registered := by
  refine run_induct (fun _ => True) Registered ?_ ?_ fun _ _ => trivial
  · refine ⟨?_, fun index listed => by cases listed⟩
    intro key index entered
    cases entered
  · exact fun h m orderly _ registered => move_registered orderly registered m

/-- What a move does to lanes, with the registry in which whoever asks is entered and the one after
the move. Those who lose their last entry are told something at most before, and are left without an
open lane. -/
structure Tended (r r' : Registry Identifier Subscriber) (before after : Lanes Subscriber) :
    Prop where
  tends : ∃ between, Tends r before between ∧ Tends r' between after
  shut : ∀ s ∈ after.openListeners, r.contains s = true → r'.contains s = true

namespace Tended

variable {r r' : Registry Identifier Subscriber} {before after : Lanes Subscriber}

theorem of_tends (tends : Tends r' before after)
    (kept : ∀ s, r.contains s = true → r'.contains s = true) : Tended r r' before after :=
  ⟨⟨before, .refl r before, tends⟩, fun s _ => kept s⟩

theorem housed (tended : Tended r r' before after) (sound : before.Sound)
    (housed : ∀ s ∈ before.openListeners, r.contains s = true) :
    ∀ s ∈ after.openListeners, r'.contains s = true := by
  obtain ⟨⟨between, first, second⟩, shut⟩ := tended
  obtain ⟨still, early⟩ := first.mem_openListeners sound
  obtain ⟨_, late⟩ := second.mem_openListeners still
  intro s isOpen
  rcases late s isOpen with opened | entered
  · have was : r.contains s = true := (early s opened).elim (housed s) id
    exact shut s isOpen was
  · exact entered

end Tended

theorem attach_tended (h : Hub) (site : Site) (i : Identifier) (s : Subscriber) :
    Tended (h.registry.subscribeTo i s).2 (h.attach site i s).2.registry h.lanes
      (h.attach site i s).2.lanes := by
  let entered : Hub := { h with registry := (h.registry.subscribeTo i s).2 }
  have tends := ensureSession_tends entered site i
  have registry := (ensureSession_ensures entered site i).registry_eq
  cases outcome : entered.ensureSession site i with
  | mk result after =>
    rw [outcome] at tends registry
    cases result with
    | ok granted =>
      have attached : (h.attach site i s).2 = after := by
        unfold attach
        simp only [entered] at outcome
        simp only [outcome]
      rw [attached, registry]
      exact .of_tends tends fun _ => id
    | error failure =>
      rw [attach_error outcome registry]
      cases still : h.registry.contains s with
      | true =>
        refine ⟨⟨after.lanes, tends, .refl _ _⟩, ?_⟩
        intro t _ listed
        exact (contains_subscribeTo_iff.mp listed).elim id fun same => same ▸ still
      | false =>
        refine ⟨⟨after.lanes, tends, .single (.close still)⟩, ?_⟩
        intro t isOpen listed
        have other : t ≠ s := (Lanes.mem_openListeners_close.mp isOpen).2
        exact (contains_subscribeTo_iff.mp listed).resolve_right other

theorem beginRead_tended (h : Hub) (site : Site) (key : Identifier) (timeout : Option Span) :
    Tended (h.registry.subscribeTo key (.reader h.reads.length)).2
      (h.beginRead site key timeout).registry h.lanes (h.beginRead site key timeout).lanes := by
  have tended := attach_tended h site key (.reader h.reads.length)
  unfold beginRead
  cases outcome : h.attach site key (.reader h.reads.length) with
  | mk result after =>
    rw [outcome] at tended
    cases result with
    | error failure => exact tended
    | ok opened => cases opened <;> exact tended

theorem unsubscribe_tended (h : Hub) (s : Subscriber) :
    Tended h.registry (h.unsubscribe s).registry h.lanes (h.unsubscribe s).lanes := by
  let left : Hub := { h with registry := h.registry.without s }
  have tends := releaseAll_tends left (h.registry.keysOf s)
  obtain ⟨_, unsubscribed⟩ := h.unsubscribe_eq s
  have registry : (h.unsubscribe s).registry = h.registry.without s := by rw [unsubscribed]
  have gone : (h.registry.without s).contains s = false := by
    rw [← Bool.not_eq_true, contains_without]
    exact fun still => still.2 rfl
  rw [registry]
  refine ⟨⟨h.lanes, .refl _ _, tends.trans (.single (.close gone))⟩, ?_⟩
  intro t isOpen entered
  have other : t ≠ s := (Lanes.mem_openListeners_close.mp isOpen).2
  exact contains_without.mpr ⟨entered, other⟩

theorem unsubscribeFrom_tended (h : Hub) (key : Identifier) (s : Subscriber) :
    Tended h.registry (h.unsubscribeFrom key s).registry h.lanes
      (h.unsubscribeFrom key s).lanes := by
  let left : Hub := { h with registry := (h.registry.unsubscribeFrom key s).2 }
  have tends := release_tends left key false
  obtain ⟨_, unsubscribed⟩ := h.unsubscribeFrom_eq key s
  have registry : (h.unsubscribeFrom key s).registry = left.registry := by rw [unsubscribed]
  rw [registry]
  unfold unsubscribeFrom
  cases still : left.registry.contains s with
  | true =>
    simp only [left] at still
    simp only [still, if_true]
    refine .of_tends tends ?_
    intro t entered
    by_cases same : t = s
    · rw [same]
      exact still
    · exact contains_unsubscribeFrom same entered
  | false =>
    refine ⟨⟨h.lanes, .refl _ _, ?_⟩, ?_⟩
    · simp only [left] at still
      simp only [still]
      exact tends.trans (.single (.close still))
    · intro t isOpen entered
      simp only [left] at still
      simp only [still] at isOpen
      have other : t ≠ s := (Lanes.mem_openListeners_close.mp isOpen).2
      exact contains_unsubscribeFrom other entered

theorem endRead_tended {h : Hub} (sound : h.lanes.Sound) (registered : h.Registered)
    (index : Nat) :
    Tended h.registry (h.endRead index).registry h.lanes (h.endRead index).lanes := by
  rcases h.endRead_cases index with nothing | ⟨read, at_index, pending⟩
  · rw [nothing]
    exact .of_tends (.refl _ _) fun _ => id
  · let s : Subscriber := .reader index
    let left : Hub :=
      { h with registry := (h.registry.unsubscribeFrom read.key s).2, lanes := h.lanes.close s }
    obtain ⟨_, ended⟩ := endRead_eq at_index pending
    have registry : (h.endRead index).registry = left.registry := by rw [ended]
    have lanes : (h.endRead index).lanes = (left.release read.key true).lanes := by
      unfold endRead
      simp only [at_index, pending, if_true]
      rfl
    -- a read has no entry but the one under its key
    have gone : left.registry.contains s = false := by
      rw [← Bool.not_eq_true, Registry.contains_iff]
      rintro (listed | ⟨key, entered⟩)
      · exact registered.filtered index listed
      · obtain ⟨old, others⟩ := Registry.mem_unsubscribeFrom.mp entered
        obtain ⟨read', awaits, rfl⟩ := registered.enrolled key index old
        exact others (by rw [awaits.eq at_index])
    have closed : Tends left.registry h.lanes left.lanes := .single (.close gone)
    have released : Tends left.registry left.lanes (left.release read.key true).lanes :=
      release_tends left read.key true
    rw [registry, lanes]
    refine ⟨⟨h.lanes, .refl _ _, closed.trans released⟩, ?_⟩
    intro t isOpen entered
    rcases (released.mem_openListeners (sound.close s)).2 t isOpen with early | still
    · exact contains_unsubscribeFrom (Lanes.mem_openListeners_close.mp early).2 entered
    · exact still

/-- First everyone who is interested is told, then those who have no entry left lose their lanes,
and what sources say at last goes to those who are left. -/
theorem announce_tended {h : Hub} (sound : h.lanes.Sound) (i : Identifier) :
    Tended h.registry (h.announce i).registry h.lanes (h.announce i).lanes := by
  let a := (h.interest i).foldl (Announcement.tell i) { hub := h }
  obtain ⟨_, told⟩ := tellAll_eq i (h.interest i) { hub := h }
  obtain ⟨_, closed⟩ := closeLanes_eq a.hub a.detached
  obtain ⟨_, _, _, announced⟩ := announce_eq h i
  have registry : (h.announce i).registry = h.unplugged i := by rw [announced]
  have kept : (a.detached.foldl closeLane a.hub).registry = h.unplugged i := by
    rw [closed]
    exact congrArg Hub.registry told
  have detached (s : Subscriber) :
      s ∈ a.detached ↔ s ∈ h.interest i ∧ (h.unplugged i).contains s = false := by
    rw [mem_tellAll_detached]
    exact or_iff_right List.not_mem_nil
  have first : Tends h.registry h.lanes a.hub.lanes := by
    change Tends h.registry h.lanes
      ((h.interest i).foldl (Announcement.tell i) { hub := h }).hub.lanes
    rw [tellAll_lanes]
    exact deliverAll_tends h.lanes _ fun _ => contains_of_interest
  have second : Tends (h.unplugged i) a.hub.lanes (a.detached.foldl closeLane a.hub).lanes :=
    closeLanes_tends a.hub fun s member => ((detached s).mp member).2
  have third : Tends (h.unplugged i) (a.detached.foldl closeLane a.hub).lanes
      (h.announce i).lanes := by
    have tends := releaseAll_tends (a.detached.foldl closeLane a.hub) a.released
    rw [kept] at tends
    exact tends
  rw [registry]
  refine ⟨⟨a.hub.lanes, first, second.trans third⟩, ?_⟩
  intro s isOpen entered
  by_contra gone
  rw [Bool.not_eq_true] at gone
  obtain ⟨soundToo, _⟩ := first.mem_openListeners sound
  obtain ⟨soundThen, _⟩ := second.mem_openListeners soundToo
  rcases (third.mem_openListeners soundThen).2 s isOpen with early | still
  · have spared := (mem_openListeners_closeLanes.mp early).2
    have deaf : s ∉ h.interest i := fun interested => spared ((detached s).mpr ⟨interested, gone⟩)
    -- whoever is not interested in the device keeps its entries
    rw [← Bool.not_eq_true, Registry.contains_iff] at gone
    rcases Registry.contains_iff.mp entered with listed | ⟨key, listed⟩
    · exact deaf (Registry.mem_interested.mpr (.inl listed))
    · cases agree : key.agrees i with
      | true => exact deaf (Registry.mem_interested.mpr (.inr ⟨key, listed, agree⟩))
      | false => exact gone (.inr ⟨key, mem_unplugged.mpr ⟨listed, agree⟩⟩)
  · rw [gone] at still
    cases still

theorem notify_tended {h : Hub} (sound : h.lanes.Sound) (index : Nat) :
    Tended h.registry (h.notify index).registry h.lanes (h.notify index).lanes := by
  cases noted : h.notices[index]? with
  | none =>
    rw [notify_absent noted]
    exact .of_tends (.refl _ _) fun _ => id
  | some i =>
    have notified : h.notify index =
        { h with notices := h.notices.eraseIdx index }.announce i := by
      unfold notify
      simp only [noted]
    rw [notified]
    exact announce_tended (h := { h with notices := h.notices.eraseIdx index }) sound i

theorem Tended.closeAll {r : Registry Identifier Subscriber} {before between : Lanes Subscriber}
    (tends : Tends r before between) : Tended r {} before between.closeAll := by
  refine ⟨⟨between, tends, .single (.closeAll fun _ => rfl)⟩, ?_⟩
  intro s isOpen
  rw [Lanes.openListeners_closeAll] at isOpen
  cases isOpen

theorem stop_tended (h : Hub) : Tended h.registry h.stop.registry h.lanes h.stop.lanes := by
  by_cases running : h.running = true
  · let stopping : Hub := { h with running := false, poller := none, sessions := [] }
    have stopped : h.stop.registry = {} ∧
        h.stop.lanes = (stopping.stopSessions h.sessions).2.lanes.closeAll := by
      unfold stop
      rw [if_pos running]
      exact ⟨rfl, rfl⟩
    rw [stopped.1, stopped.2]
    exact .closeAll (stopSessions_tends stopping h.sessions)
  · have nothing : h.stop = h := if_neg running
    rw [nothing]
    exact .of_tends (.refl _ _) fun _ => id

theorem discard_tended (h : Hub) :
    Tended h.registry (h.move .discard).registry h.lanes (h.move .discard).lanes := by
  by_cases held : h.isHeld = true
  · have nothing : h.move .discard = h := if_pos held
    rw [nothing]
    exact .of_tends (.refl _ _) fun _ => id
  · have given : h.move .discard = h.discard := if_neg held
    rw [given]
    exact .closeAll (.refl h.registry h.lanes)

theorem contains_entering (h : Hub) {s : Subscriber} (entered : h.registry.contains s = true)
    (m : Move) : (h.entering m).contains s = true := by
  cases m with
  | subscribeTo site key name => exact contains_subscribeTo_iff.mpr (.inl entered)
  | beginRead site key timeout => exact contains_subscribeTo_iff.mpr (.inl entered)
  | _ => exact entered

theorem move_tended {h : Hub} (wired : h.Wired) (registered : h.Registered) {m : Move}
    (aside : m.isWork = false) :
    Tended (h.entering m) (h.move m).registry h.lanes (h.move m).lanes := by
  have sound : h.lanes.Sound := wired.sound
  have steady {h' : Hub} (registry : h'.registry = h.registry)
      (tends : Tends h.registry h.lanes h'.lanes) :
      Tended h.registry h'.registry h.lanes h'.lanes := by
    rw [registry]
    exact .of_tends tends fun _ => id
  cases m with
  | start site => exact steady (h.start_readers site).1 (start_tends h site)
  | stop => exact stop_tended h
  | subscribe name => exact .of_tends (.refl _ _) fun _ => contains_subscribe
  | unsubscribe name => exact unsubscribe_tended h (.listener name)
  | subscribeTo site key name =>
    change Tended (h.entering (.subscribeTo site key name))
      (h.subscribeTo site key (.listener name)).2.registry _
      (h.subscribeTo site key (.listener name)).2.lanes
    rw [subscribeTo_eq]
    exact attach_tended h site key (.listener name)
  | unsubscribeFrom key name => exact unsubscribeFrom_tended h key (.listener name)
  | appeared site port =>
    exact steady (h.appeared_readers site port false).1 (appeared_tends h site port false)
  | disappeared port => exact steady (h.disappeared_readers port).1 (disappeared_tends h port)
  | beginRead site key timeout => exact beginRead_tended h site key timeout
  | endRead index => exact endRead_tended sound registered index
  | report source signal =>
    obtain ⟨_, reported⟩ := report_eq wired.orderly.distinct source signal
    refine steady ?_ (report_tends h source signal)
    change (h.report source signal).registry = h.registry
    rw [reported]
  | notify index => exact notify_tended sound index
  | poll ports => exact steady rfl (.refl _ _)
  | refill => exact steady rfl (.refl _ _)
  | consume site => exact steady (h.consume_readers site).1 (consume_tends h site)
  | takeUp lane => cases aside
  | finish lane panicked => cases aside
  | discard => exact discard_tended h

theorem takeUp_step (h : Hub) (lane : Nat) : (h.takeUp lane).lanes = h.lanes.take lane := by
  unfold takeUp
  cases next : h.lanes.next? lane with
  | none => exact (Lanes.take_eq_self next).symm
  | some handed =>
    obtain ⟨s, event⟩ := handed
    cases s <;> rfl

theorem move_isWork {h : Hub} {m : Move} (work : m.isWork = true) :
    ∃ step, (h.move m).lanes = h.lanes.step step ∧ (h.move m).registry = h.registry ∧
      ∀ s ∈ (h.move m).lanes.openListeners, s ∈ h.lanes.openListeners := by
  cases m with
  | takeUp lane =>
    obtain ⟨_, _, taken, _⟩ := h.takeUp_eq lane
    have registry : (h.takeUp lane).registry = h.registry := by rw [taken]
    refine ⟨.take lane, h.takeUp_step lane, registry, ?_⟩
    intro s isOpen
    change s ∈ (h.takeUp lane).lanes.openListeners at isOpen
    rw [takeUp_step] at isOpen
    exact Lanes.mem_openListeners_take isOpen
  | finish lane panicked =>
    exact ⟨.finish lane panicked, rfl, rfl, fun s => Lanes.mem_openListeners_finish⟩
  | _ => cases work

/-- Everyone with an open lane has an entry. -/
def Housed (h : Hub) : Prop := ∀ s ∈ h.lanes.openListeners, h.isSubscribed s = true

theorem move_housed {h : Hub} (wired : h.Wired) (registered : h.Registered) (housed : h.Housed)
    (m : Move) : (h.move m).Housed := by
  cases work : m.isWork with
  | false =>
    refine (move_tended wired registered work).housed wired.sound ?_
    exact fun s isOpen => h.contains_entering (housed s isOpen) m
  | true =>
    obtain ⟨_, _, registry, opened⟩ := move_isWork (h := h) work
    intro s isOpen
    unfold isSubscribed
    rw [registry]
    exact housed s (opened s isOpen)

theorem run_housed (config : Config) (moves : List Move) : ((fresh config).run moves).Housed := by
  induction moves using List.reverseRecOn with
  | nil => exact fun s isOpen => by cases isOpen
  | append_singleton moves m ih =>
    rw [run_concat]
    exact move_housed (run_wired config moves) (run_registered config moves) ih m

theorem move_lanes {h : Hub} (wired : h.Wired) (registered : h.Registered) (m : Move) :
    ∃ steps, (h.move m).lanes = h.lanes.run steps := by
  cases work : m.isWork with
  | false =>
    obtain ⟨⟨_, ⟨steps, rfl, _⟩, more, after, _⟩, _⟩ := move_tended wired registered work
    exact ⟨steps ++ more, after.trans (Lanes.run_append _ _ _).symm⟩
  | true =>
    obtain ⟨step, after, _⟩ := move_isWork (h := h) work
    exact ⟨[step], after⟩

theorem mem_subscribers {r : Registry Identifier Subscriber} {s : Subscriber} :
    s ∈ r.subscribers ↔ r.contains s = true := by
  unfold Registry.subscribers
  rw [Distinct.mem_addAll, Registry.contains_iff]
  simp

/-- In every reachable hub each subscriber has one open lane at most, and whoever has one has an
entry, so that there are no more open lanes than subscribers, each counted once. -/
theorem run_lanes (config : Config) (moves : List Move) :
    let h := (fresh config).run moves
    h.lanes.openListeners.Nodup ∧ (∀ s ∈ h.lanes.openListeners, h.isSubscribed s = true) ∧
      h.registry.subscribers.Nodup ∧ h.lanes.stats.openLanes ≤ h.subscriberCount := by
  intro h
  have wired : h.Wired := run_wired config moves
  have once : h.lanes.openListeners.Nodup := wired.sound.openListeners_nodup
  have housed : h.Housed := run_housed config moves
  refine ⟨once, housed, Distinct.nodup_addAll wired.once _, ?_⟩
  have counted : h.lanes.stats.openLanes = h.lanes.openListeners.length :=
    (List.length_map _).symm
  have entered : h.lanes.openListeners ⊆ h.registry.subscribers :=
    fun s isOpen => mem_subscribers.mpr (housed s isOpen)
  rw [counted]
  exact (once.subperm entered).length_le

/-- An announced fault leaves the lane of a listener without entries closed, though it is yet to be
handed over. -/
example :
    let site := quietSite [⟨none, "a"⟩]
    let h := (fresh {}).run [.subscribeTo site (.ofPortName "a") "x", .report 0 (.error "noise"),
      .disappeared ⟨none, "a"⟩, .notify 0]
    h.lanes.openListeners = [] ∧ (h.lanes.heldFor (.listener "x")).length = 2 := by
  decide

end Hub

end MeterHub
