import MeterHub.Hub.Lifecycle

/-!
What closing sessions leaves of a hub. Whatever is routed meanwhile changes the lanes alone, so each
way to close sessions comes down to an equation: which sessions are kept, which sources are
silenced, and what becomes of the registry.
-/

set_option autoImplicit false
set_option relaxedAutoImplicit false

namespace MeterHub.Hub

theorem routeAll_eq (h : Hub) (events : List Event) :
    ∃ lanes, h.routeAll events = { h with lanes } := by
  induction events generalizing h with
  | nil => exact ⟨h.lanes, rfl⟩
  | cons event events ih =>
    obtain ⟨lanes, rest⟩ := ih (h.route event)
    exact ⟨lanes, rest⟩

theorem publish_eq (h : Hub) (session : Session Relay) (events : List Event) :
    ∃ lanes, h.publish session events = { h with lanes } := routeAll_eq h _

theorem getElem?_silence (sources : List Source) (live : Live) (index : Nat) :
    (silence sources live)[index]? =
      if live.source = index then (sources[index]?).map fun source => source.stop.2
      else sources[index]? := by
  unfold silence
  rw [List.getElem?_modify]
  by_cases same : live.source = index
  · rw [if_pos same]
    simp only [same, if_true]
    rfl
  · rw [if_neg same]
    simp only [same, if_false]
    cases sources[index]? <;> rfl

theorem getElem?_silenceAll {lives : List Live} (distinct : (lives.map Live.source).Nodup)
    (sources : List Source) (index : Nat) :
    (lives.foldl silence sources)[index]? =
      if index ∈ lives.map Live.source then (sources[index]?).map fun source => source.stop.2
      else sources[index]? := by
  induction lives generalizing sources with
  | nil => simp
  | cons live lives ih =>
    rw [List.map_cons, List.nodup_cons] at distinct
    rw [List.foldl_cons, ih distinct.2, getElem?_silence, List.map_cons]
    by_cases first : live.source = index
    · have notLater : index ∉ lives.map Live.source := first ▸ distinct.1
      simp [first, notLater]
    · have head : index ≠ live.source := fun same => first same.symm
      simp [first, head]

theorem length_silenceAll (lives : List Live) (sources : List Source) :
    (lives.foldl silence sources).length = sources.length := by
  induction lives generalizing sources with
  | nil => rfl
  | cons live lives ih =>
    rw [List.foldl_cons, ih]
    exact List.length_modify _ _ _

/-- Stopping a session silences its source; what the source says meanwhile only reaches lanes. -/
theorem stopSession_eq (h : Hub) (live : Live) :
    ∃ lanes, (h.stopSession live).2 = { h with lanes, sources := silence h.sources live } := by
  unfold stopSession
  cases entered : h.sources[live.source]? with
  | none =>
    refine ⟨h.lanes, ?_⟩
    have nothing : silence h.sources live = h.sources := by
      unfold silence
      apply List.modify_eq_self
      exact List.getElem?_eq_none_iff.mp entered
    rw [nothing]
  | some source =>
    obtain ⟨lanes, published⟩ := publish_eq
      { h with sources := h.sources.set live.source source.stop.2 } live.session
      (live.session.stop source.stop.1).1
    refine ⟨lanes, published.trans ?_⟩
    have silenced : h.sources.set live.source source.stop.2 = silence h.sources live := by
      apply List.ext_getElem?
      intro index
      rw [getElem?_silence, List.getElem?_set]
      by_cases same : live.source = index
      · subst same
        have bound : live.source < h.sources.length := (List.getElem?_eq_some_iff.mp entered).1
        rw [if_pos rfl, if_pos rfl, if_pos bound, entered]
        rfl
      · rw [if_neg same, if_neg same]
    rw [silenced]

theorem stopSessions_eq (h : Hub) (lives : List Live) :
    ∃ lanes, (h.stopSessions lives).2 =
      { h with lanes, sources := lives.foldl silence h.sources } := by
  induction lives generalizing h with
  | nil => exact ⟨h.lanes, rfl⟩
  | cons live lives ih =>
    obtain ⟨_, first⟩ := stopSession_eq h live
    obtain ⟨lanes, rest⟩ := ih (h.stopSession live).2
    refine ⟨lanes, ?_⟩
    calc (h.stopSessions (live :: lives)).2
        = ((h.stopSession live).2.stopSessions lives).2 := rfl
      _ = { (h.stopSession live).2 with
            lanes, sources := lives.foldl silence (h.stopSession live).2.sources } := rest
      _ = { h with lanes, sources := (live :: lives).foldl silence h.sources } := by
        rw [first]
        rfl

/-- Whether some keys designate a session that is not native and that nobody in a registry is
interested in. -/
def isSpare (r : Registry Identifier Subscriber) (keys : List Identifier) (live : Live) : Bool :=
  !live.session.native && keys.any (fun key => key.agrees live.identifier) &&
    (r.interested Identifier.agrees live.identifier true).isEmpty

theorem isSpare_iff {r : Registry Identifier Subscriber} {keys : List Identifier} {live : Live} :
    isSpare r keys live = true ↔
      live.session.native = false ∧ (∃ key ∈ keys, key.agrees live.identifier = true) ∧
        r.interested Identifier.agrees live.identifier true = [] := by
  simp [isSpare, and_assoc]

theorem isUnused_eq (h : Hub) (key : Identifier) (ephemeralOnly : Bool) :
    h.isUnused key ephemeralOnly = fun live =>
      (!ephemeralOnly || live.session.ephemeral) && isSpare h.registry [key] live := by
  funext live
  unfold isUnused isSpare interest
  simp only [List.any_cons, List.any_nil, Bool.or_false]
  cases live.session.native <;> cases (!ephemeralOnly || live.session.ephemeral) <;> rfl

theorem isSpare_cons (r : Registry Identifier Subscriber) (key : Identifier)
    (keys : List Identifier) (live : Live) :
    isSpare r (key :: keys) live = (isSpare r [key] live || isSpare r keys live) := by
  unfold isSpare
  simp only [List.any_cons, List.any_nil, Bool.or_false]
  cases live.session.native <;> cases key.agrees live.identifier <;>
    cases keys.any (fun key => key.agrees live.identifier) <;>
    cases (r.interested Identifier.agrees live.identifier true).isEmpty <;> rfl

theorem release_eq (h : Hub) (key : Identifier) (ephemeralOnly : Bool) :
    ∃ lanes, h.release key ephemeralOnly =
      { h with
        lanes
        sessions := h.sessions.filter fun live => !h.isUnused key ephemeralOnly live
        sources := (h.sessions.filter (h.isUnused key ephemeralOnly)).foldl silence h.sources } := by
  obtain ⟨lanes, stopped⟩ := stopSessions_eq
    { h with sessions := h.sessions.filter fun live => !h.isUnused key ephemeralOnly live }
    (h.sessions.filter (h.isUnused key ephemeralOnly))
  exact ⟨lanes, stopped⟩

private theorem silence_comm (sources : List Source) (a b : Live) :
    silence (silence sources a) b = silence (silence sources b) a := by
  apply List.ext_getElem?
  intro index
  rw [getElem?_silence, getElem?_silence, getElem?_silence, getElem?_silence]
  by_cases first : a.source = index <;> by_cases second : b.source = index <;>
    simp [first, second]

theorem silenceAll_perm {lives lives' : List Live} (perm : lives.Perm lives')
    (sources : List Source) : lives.foldl silence sources = lives'.foldl silence sources := by
  apply perm.foldl_eq'
  intro a _ b _ current
  exact silence_comm current a b

theorem filter_append_filter_perm {α : Type} (p q : α → Bool) (items : List α) :
    (items.filter p ++ (items.filter fun a => !p a).filter q).Perm
      (items.filter fun a => p a || q a) := by
  have split := List.filter_append_perm p (items.filter fun a => p a || q a)
  have first : (items.filter fun a => p a || q a).filter p = items.filter p := by
    rw [List.filter_filter]
    apply List.filter_congr
    intro a _
    cases p a <;> simp
  have second : ((items.filter fun a => p a || q a).filter fun a => !p a) =
      (items.filter fun a => !p a).filter q := by
    rw [List.filter_filter, List.filter_filter]
    apply List.filter_congr
    intro a _
    cases p a <;> simp
  rw [first, second] at split
  exact split

theorem filter_not_or {α : Type} (p q : α → Bool) (items : List α) :
    ((items.filter fun a => !p a).filter fun a => !q a) =
      items.filter fun a => !(p a || q a) := by
  rw [List.filter_filter]
  apply List.filter_congr
  intro a _
  rw [Bool.not_or, Bool.and_comm]

theorem filter_isSpare_nil (r : Registry Identifier Subscriber) (lives : List Live) :
    lives.filter (isSpare r []) = [] ∧ (lives.filter fun live => !isSpare r [] live) = lives := by
  simp [isSpare]

theorem releaseEach_eq (h : Hub) (keys : List Identifier) (ephemeralOnly : Bool) :
    ∃ lanes, keys.foldl (fun hub key => hub.release key ephemeralOnly) h =
      { h with
        lanes
        sessions := h.sessions.filter fun live =>
          !keys.any fun key => h.isUnused key ephemeralOnly live
        sources := (h.sessions.filter fun live =>
          keys.any fun key => h.isUnused key ephemeralOnly live).foldl silence h.sources } := by
  induction keys generalizing h with
  | nil =>
    have all : (h.sessions.filter fun _ => true) = h.sessions := by simp
    have none : (h.sessions.filter fun _ => false) = [] := by simp
    refine ⟨h.lanes, ?_⟩
    simp only [List.any_nil, Bool.not_false, all, none]
    rfl
  | cons key keys ih =>
    obtain ⟨_, first⟩ := release_eq h key ephemeralOnly
    obtain ⟨lanes, rest⟩ := ih (h.release key ephemeralOnly)
    refine ⟨lanes, ?_⟩
    -- the first key changes sessions and sources, but not the registry that decides what is unused
    have same : (h.release key ephemeralOnly).isUnused = h.isUnused := by
      rw [first]
      rfl
    have kept := filter_not_or (h.isUnused key ephemeralOnly)
      (fun live => keys.any fun key => h.isUnused key ephemeralOnly live) h.sessions
    have silenced := silenceAll_perm (filter_append_filter_perm (h.isUnused key ephemeralOnly)
      (fun live => keys.any fun key => h.isUnused key ephemeralOnly live) h.sessions) h.sources
    rw [List.foldl_append] at silenced
    rw [List.foldl_cons, rest, same, first]
    simp only [List.any_cons, kept, silenced]

theorem releaseAll_eq_foldl (h : Hub) (keys : List Identifier) :
    h.releaseAll keys = keys.foldl (fun hub key => hub.release key false) h := by
  induction keys generalizing h with
  | nil => rfl
  | cons key keys ih => exact ih (h.release key false)

theorem isSpare_eq_any (h : Hub) (keys : List Identifier) :
    isSpare h.registry keys = fun live => keys.any fun key => h.isUnused key false live := by
  funext live
  rw [Bool.eq_iff_iff, isSpare_iff, List.any_eq_true]
  simp only [isUnused_eq, Bool.not_false, Bool.true_or, Bool.true_and, isSpare_iff,
    List.mem_singleton, exists_eq_left]
  constructor
  · rintro ⟨native, ⟨key, member, designated⟩, unwanted⟩
    exact ⟨key, member, native, designated, unwanted⟩
  · rintro ⟨key, member, native, designated, unwanted⟩
    exact ⟨native, ⟨key, member, designated⟩, unwanted⟩

/-- Releasing keys one by one closes what is spare under all of them. -/
theorem releaseAll_eq (h : Hub) (keys : List Identifier) :
    ∃ lanes, h.releaseAll keys =
      { h with
        lanes
        sessions := h.sessions.filter fun live => !isSpare h.registry keys live
        sources := (h.sessions.filter (isSpare h.registry keys)).foldl silence h.sources } := by
  rw [releaseAll_eq_foldl, isSpare_eq_any]
  exact releaseEach_eq h keys false

theorem unsubscribe_eq (h : Hub) (s : Subscriber) :
    ∃ lanes, h.unsubscribe s =
      { h with
        lanes
        registry := h.registry.without s
        sessions := h.sessions.filter fun live =>
          !isSpare (h.registry.without s) (h.registry.keysOf s) live
        sources := (h.sessions.filter
          (isSpare (h.registry.without s) (h.registry.keysOf s))).foldl silence h.sources } := by
  obtain ⟨lanes, released⟩ := releaseAll_eq
    { h with registry := h.registry.without s } (h.registry.keysOf s)
  refine ⟨lanes.close s, ?_⟩
  change closeLane (releaseAll { h with registry := h.registry.without s } _) s = _
  rw [released]
  rfl

theorem unsubscribeFrom_eq (h : Hub) (key : Identifier) (s : Subscriber) :
    ∃ lanes, h.unsubscribeFrom key s =
      { h with
        lanes
        registry := (h.registry.unsubscribeFrom key s).2
        sessions := h.sessions.filter fun live =>
          !isSpare (h.registry.unsubscribeFrom key s).2 [key] live
        sources := (h.sessions.filter
          (isSpare (h.registry.unsubscribeFrom key s).2 [key])).foldl silence h.sources } := by
  obtain ⟨lanes, released⟩ := releaseAll_eq
    { h with registry := (h.registry.unsubscribeFrom key s).2 } [key]
  unfold unsubscribeFrom
  simp only
  split
  · exact ⟨lanes, released⟩
  · refine ⟨lanes.close s, ?_⟩
    change closeLane (releaseAll _ [key]) s = _
    rw [released]
    rfl

theorem endRead_eq {h : Hub} {index : Nat} {read : Read} (at_index : h.reads[index]? = some read)
    (pending : read.isPending = true) :
    ∃ lanes, h.endRead index =
      { h with
        lanes
        registry := (h.registry.unsubscribeFrom read.key (.reader index)).2
        reads := h.reads.set index { read with result := some read.outcome }
        sessions := h.sessions.filter fun live =>
          !(live.session.ephemeral &&
            isSpare (h.registry.unsubscribeFrom read.key (.reader index)).2 [read.key] live)
        sources := (h.sessions.filter fun live =>
          live.session.ephemeral &&
            isSpare (h.registry.unsubscribeFrom read.key (.reader index)).2
              [read.key] live).foldl silence h.sources } := by
  obtain ⟨lanes, released⟩ := release_eq
    ({ h with registry := (h.registry.unsubscribeFrom read.key (.reader index)).2 }.closeLane
      (.reader index)) read.key true
  refine ⟨lanes, ?_⟩
  unfold endRead
  simp only [at_index, pending, if_true]
  rw [released, isUnused_eq]
  simp only [Bool.not_true, Bool.false_or]
  rfl

theorem endRead_finished {h : Hub} {index : Nat} {read : Read}
    (at_index : h.reads[index]? = some read) (finished : read.isPending = false) :
    h.endRead index = h := by
  unfold endRead
  simp only [at_index, finished]
  rfl

theorem endRead_cases (h : Hub) (index : Nat) :
    h.endRead index = h ∨ ∃ read, h.reads[index]? = some read ∧ read.isPending = true := by
  cases at_index : h.reads[index]? with
  | none =>
    refine .inl ?_
    unfold endRead
    rw [at_index]
  | some read =>
    cases pending : read.isPending with
    | false => exact .inl (endRead_finished at_index pending)
    | true => exact .inr ⟨read, rfl, pending⟩

theorem disappeared_eq (h : Hub) (port : Port) :
    ∃ lanes notices, h.disappeared port =
      { h with
        lanes
        notices
        sessions := h.sessions.filter fun live => !live.port.same port
        sources := (h.sessions.filter fun live => live.port.same port).foldl silence h.sources } := by
  obtain ⟨lanes, stopped⟩ := stopSessions_eq
    { h with sessions := h.sessions.filter fun live => !live.port.same port }
    (h.sessions.filter fun live => live.port.same port)
  unfold disappeared
  simp only
  rw [stopped]
  exact ⟨lanes, _, rfl⟩

theorem stop_eq {h : Hub} (running : h.running = true) :
    ∃ lanes, h.stop =
      { h with
        lanes
        registry := {}
        running := false
        poller := none
        sessions := []
        sources := h.sessions.foldl silence h.sources } := by
  obtain ⟨lanes, stopped⟩ := stopSessions_eq
    { h with running := false, poller := none, sessions := [] } h.sessions
  unfold stop
  simp only [running, if_true]
  rw [stopped]
  exact ⟨lanes.closeAll, rfl⟩

end MeterHub.Hub
