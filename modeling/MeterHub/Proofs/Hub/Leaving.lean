import MeterHub.Proofs.Hub.Departure
import MeterHub.Proofs.Hub.Queueing

/-!
Giving up subscriptions, one by one or all at once. A subscription that is not there can be given up
too: no entry and no lane goes, but the sessions that the key designates and nobody needs close. Who
has only filters leaves the hub in the same state whether it gives up its filters one by one, in any
order, or all at once.
-/

set_option autoImplicit false
set_option relaxedAutoImplicit false

namespace MeterHub

namespace Registry

variable {κ σ : Type} [DecidableEq κ] [DecidableEq σ]

def withoutKeys (r : Registry κ σ) (keys : List κ) (s : σ) : Registry κ σ :=
  { r with filtered := r.filtered.filter fun entry => !(entry.2 == s && keys.contains entry.1) }

theorem withoutKeys_nil (r : Registry κ σ) (s : σ) : r.withoutKeys [] s = r := by
  simp [withoutKeys]

theorem mem_withoutKeys {r : Registry κ σ} {keys : List κ} {s : σ} {entry : κ × σ} :
    entry ∈ (r.withoutKeys keys s).filtered ↔
      entry ∈ r.filtered ∧ ¬(entry.2 = s ∧ entry.1 ∈ keys) := by
  unfold withoutKeys
  rw [List.mem_filter, Bool.not_eq_true', Bool.eq_false_iff]
  simp

theorem withoutKeys_concat (r : Registry κ σ) (keys : List κ) (key : κ) (s : σ) :
    ((r.withoutKeys keys s).unsubscribeFrom key s).2 = r.withoutKeys (keys ++ [key]) s := by
  unfold unsubscribeFrom withoutKeys
  dsimp only
  rw [List.filter_filter]
  congr 1
  apply List.filter_congr
  rintro ⟨wanted, t⟩ _
  rw [Bool.eq_iff_iff]
  simp only [Bool.and_eq_true, bne_iff_ne, ne_eq, Prod.mk.injEq, Bool.not_eq_true',
    Bool.and_eq_false_iff, beq_eq_false_iff_ne, List.contains_eq_mem, decide_eq_false_iff_not,
    List.mem_append, List.mem_singleton]
  tauto

theorem contains_withoutKeys_concat {r : Registry κ σ} {keys : List κ} {key : κ} {s t : σ}
    (still : (r.withoutKeys (keys ++ [key]) s).contains t = true) :
    (r.withoutKeys keys s).contains t = true := by
  rw [contains_iff] at still ⊢
  refine still.imp_right ?_
  rintro ⟨wanted, listed⟩
  obtain ⟨entered, others⟩ := mem_withoutKeys.mp listed
  refine ⟨wanted, mem_withoutKeys.mpr ⟨entered, fun own => others ?_⟩⟩
  exact ⟨own.1, List.mem_append_left _ own.2⟩

theorem withoutKeys_keysOf {r : Registry κ σ} {keys : List κ} {s : σ}
    (all : keys.Perm (r.keysOf s)) (keyed : s ∉ r.unfiltered) :
    r.withoutKeys keys s = r.without s := by
  have filtered : (r.filtered.filter fun entry => !(entry.2 == s && keys.contains entry.1)) =
      r.filtered.filter fun entry => entry.2 != s := by
    apply List.filter_congr
    rintro ⟨key, t⟩ listed
    by_cases own : t = s
    · subst own
      have member : key ∈ keys := all.mem_iff.mpr (mem_keysOf.mpr listed)
      simp [member]
    · rw [beq_false_of_ne own, bne_iff_ne.mpr own]
      rfl
  unfold withoutKeys without
  rw [filter_ne_eq_self keyed, filtered]

end Registry

namespace Hub

theorem unsubscribeFrom_absent {h : Hub} (regular : h.Regular) {key : Identifier} {s : Subscriber}
    (absent : (key, s) ∉ h.registry.filtered) :
    h.unsubscribeFrom key s = h.release key false := by
  have tends := release_tends h key false
  have sound := regular.wired.sound
  unfold unsubscribeFrom
  rw [Registry.unsubscribeFrom_absent absent]
  dsimp only
  cases entered : h.registry.contains s with
  | true => rfl
  | false =>
    -- who has no entry has no open lane, before the sessions close and after
    have closed : s ∉ (h.release key false).lanes.openListeners := by
      intro isOpen
      have either : h.registry.contains s = true := by
        rcases (tends.mem_openListeners sound).2 s isOpen with early | told
        · exact regular.housed s early
        · exact told
      rw [entered] at either
      cases either
    obtain ⟨tidy, _⟩ := tends.queues regular.tidy s
    have same := tidy.close_eq_self closed
    change closeLane (h.release key false) s = h.release key false
    unfold closeLane
    rw [same]

/-- What giving up a subscription that is not there does to a hub: entries and open lanes are kept,
but the sessions that the key designates and nobody needs close. -/
structure Vacates (h : Hub) (key : Identifier) (after : Hub) : Prop where
  registry : after.registry = h.registry
  sessions : after.sessions = h.sessions.filter fun live => !h.isUnused key false live
  sources : ∀ index, after.sources[index]? =
    if index ∈ (h.sessions.filter (h.isUnused key false)).map Live.source then
      (h.sources[index]?).map fun source => source.stop.2
    else h.sources[index]?
  lanes : ∀ s ∈ h.lanes.openListeners, s ∈ after.lanes.openListeners
  silent : (∀ source ∈ h.sources, source.PartsInErrors) → after.lanes = h.lanes
  idle : after = h ↔ ∀ live ∈ h.sessions, ¬Unneeded h key live

theorem release_vacates {h : Hub} (regular : h.Regular) (key : Identifier) :
    Vacates h key (h.release key false) := by
  obtain ⟨_, released⟩ := release_eq h key false
  have distinct : ((h.sessions.filter (h.isUnused key false)).map Live.source).Nodup :=
    regular.wired.orderly.distinct.sublist (List.filter_sublist.map Live.source)
  have sessions : (h.release key false).sessions =
      h.sessions.filter fun live => !h.isUnused key false live := by rw [released]
  refine ⟨by rw [released], sessions, ?_, ?_, ?_, ?_⟩
  · intro index
    rw [released]
    exact getElem?_silenceAll distinct h.sources index
  · intro s isOpen
    exact (release_tends h key false).stays_open regular.wired.sound (regular.housed s isOpen) isOpen
  · intro curt
    exact releaseAll_unheard curt [key]
  · constructor
    · intro same live member unneeded
      rw [← same, sessions] at member
      have needed := (List.mem_filter.mp member).2
      rw [isUnused_iff.mpr unneeded] at needed
      cases needed
    · intro needed
      have none : h.sessions.filter (h.isUnused key false) = [] := by
        apply List.filter_eq_nil_iff.mpr
        intro live member unused
        exact needed live member (isUnused_iff.mp unused)
      have all : (h.sessions.filter fun live => !h.isUnused key false live) = h.sessions := by
        apply List.filter_eq_self.mpr
        intro live member
        rw [Bool.not_eq_true', Bool.eq_false_iff]
        exact fun unused => needed live member (isUnused_iff.mp unused)
      unfold release
      rw [none, all]
      rfl

/-- Giving up a subscription that is not there takes no entry and no lane from anyone. It closes the
sessions that the key designates if they are not native and nobody is interested in them, such as
those of plugged devices, and without such a session it does nothing at all. -/
theorem run_vacates (config : Config) (moves : List Move) (key : Identifier) (name : String) :
    let h := (fresh config).run moves
    (key, .listener name) ∉ h.registry.filtered →
      Vacates h key (h.move (.unsubscribeFrom key name)) := by
  intro h absent
  have regular : h.Regular := run_regular (fresh_regular config) moves
  change Vacates h key (h.unsubscribeFrom key (.listener name))
  rw [unsubscribeFrom_absent regular absent]
  exact release_vacates regular key

/-- Of two plugged devices one is wanted by its name, and stays open when someone else gives up that
name. -/
theorem run_vacates_wanted :
    let site := quietSite []
    let h := (fresh {}).run [.appeared site ⟨some "1", "a"⟩, .appeared site ⟨some "2", "b"⟩,
      .subscribeTo site (.ofPortName "a") "x"]
    h.move (.unsubscribeFrom (.ofPortName "a") "y") = h := by
  intro site h
  have vacates := run_vacates {} [.appeared site ⟨some "1", "a"⟩, .appeared site ⟨some "2", "b"⟩,
    .subscribeTo site (.ofPortName "a") "x"] (.ofPortName "a") "y" (by decide)
  apply vacates.idle.mpr
  intro live member unneeded
  have used : ∀ live ∈ h.sessions, h.isUnused (.ofPortName "a") false live = false := by decide
  have never := used live member
  rw [isUnused_iff.mpr unneeded] at never
  cases never

/-- Someone who never subscribed closes the session of a plugged device. -/
theorem plugged_session_vacated :
    let h := (fresh {}).run [.appeared (quietSite []) ⟨some "1", "COM1"⟩]
    (.ofPortName "COM1", .listener "x") ∉ h.registry.filtered ∧
      h.sessions.length = 1 ∧
      (h.move (.unsubscribeFrom (.ofPortName "COM1") "x")).sessions = [] := by
  decide

theorem isSpare_withoutKeys_concat (r : Registry Identifier Subscriber) (keys : List Identifier)
    (key : Identifier) (s : Subscriber) (live : Live) :
    (isSpare (r.withoutKeys keys s) keys live ||
        isSpare (r.withoutKeys (keys ++ [key]) s) [key] live) =
      isSpare (r.withoutKeys (keys ++ [key]) s) (keys ++ [key]) live := by
  rw [Bool.eq_iff_iff, Bool.or_eq_true, isSpare_iff, isSpare_iff, isSpare_iff]
  simp only [Registry.interested_eq_nil_iff, Registry.mem_withoutKeys]
  constructor
  · rintro (⟨native, ⟨wanted, listed, designated⟩, nobody, refused⟩ | ⟨native, only, unwanted⟩)
    · refine ⟨native, ⟨wanted, List.mem_append_left _ listed, designated⟩, nobody, ?_⟩
      rintro entry ⟨entered, others⟩
      exact refused entry ⟨entered, fun own => others ⟨own.1, List.mem_append_left _ own.2⟩⟩
    · obtain ⟨wanted, listed, designated⟩ := only
      exact ⟨native, ⟨wanted, List.mem_append_right _ listed, designated⟩, unwanted⟩
  · rintro ⟨native, ⟨wanted, listed, designated⟩, nobody, refused⟩
    by_cases last : key.agrees live.identifier = true
    · exact .inr ⟨native, ⟨key, List.mem_singleton_self key, last⟩, nobody, refused⟩
    · -- the last entry to go does not keep the session, so the session was spare before
      rcases List.mem_append.mp listed with early | only
      · refine .inl ⟨native, ⟨wanted, early, designated⟩, nobody, ?_⟩
        rintro entry ⟨entered, others⟩
        by_cases own : entry.2 = s ∧ entry.1 = key
        · rw [own.2]
          exact Bool.eq_false_iff.mpr last
        · refine refused entry ⟨entered, ?_⟩
          rintro ⟨mine, gone⟩
          rcases List.mem_append.mp gone with among | same
          · exact others ⟨mine, among⟩
          · exact own ⟨mine, List.mem_singleton.mp same⟩
      · rw [List.mem_singleton.mp only] at designated
        exact (last designated).elim

theorem unsubscribeFrom_unheard {h : Hub} (curt : ∀ source ∈ h.sources, source.PartsInErrors)
    (key : Identifier) (s : Subscriber) :
    h.unsubscribeFrom key s =
      { h with
        registry := (h.registry.unsubscribeFrom key s).2
        lanes := if (h.registry.unsubscribeFrom key s).2.contains s then h.lanes
          else h.lanes.close s
        sessions := h.sessions.filter fun live =>
          !isSpare (h.registry.unsubscribeFrom key s).2 [key] live
        sources := (h.sessions.filter
          (isSpare (h.registry.unsubscribeFrom key s).2 [key])).foldl silence h.sources } := by
  let left : Hub := { h with registry := (h.registry.unsubscribeFrom key s).2 }
  have unheard : (left.release key false).lanes = h.lanes := releaseAll_unheard (h := left) curt [key]
  obtain ⟨lanes, unsubscribed⟩ := h.unsubscribeFrom_eq key s
  have own : (h.unsubscribeFrom key s).lanes =
      if left.registry.contains s then h.lanes else h.lanes.close s := by
    rw [← unheard]
    unfold unsubscribeFrom
    exact apply_ite Hub.lanes _ _ _
  rw [unsubscribed] at own ⊢
  rw [show lanes = _ from own]

theorem unsubscribe_unheard {h : Hub} (curt : ∀ source ∈ h.sources, source.PartsInErrors)
    (s : Subscriber) : (h.unsubscribe s).lanes = h.lanes.close s := by
  let left : Hub := { h with registry := h.registry.without s }
  have unheard : (left.releaseAll (h.registry.keysOf s)).lanes = h.lanes :=
    releaseAll_unheard (h := left) curt _
  exact congrArg (fun lanes => Lanes.close lanes s) unheard

theorem leave_eq {h : Hub} (regular : h.Regular) (curt : ∀ source ∈ h.sources, source.PartsInErrors)
    (keys : List Identifier) (s : Subscriber) :
    keys.foldl (fun hub key => hub.unsubscribeFrom key s) h =
      { h with
        registry := h.registry.withoutKeys keys s
        lanes := if (h.registry.withoutKeys keys s).contains s then h.lanes else h.lanes.close s
        sessions := h.sessions.filter fun live =>
          !isSpare (h.registry.withoutKeys keys s) keys live
        sources := (h.sessions.filter
          (isSpare (h.registry.withoutKeys keys s) keys)).foldl silence h.sources } := by
  induction keys using List.reverseRecOn with
  | nil =>
    obtain ⟨none, all⟩ := filter_isSpare_nil h.registry h.sessions
    -- who has no entry has no open lane
    have lanes : (if h.registry.contains s then h.lanes else h.lanes.close s) = h.lanes := by
      split
      · rfl
      · rename_i gone
        exact regular.tidy.close_eq_self fun isOpen => gone (regular.housed s isOpen)
    rw [Registry.withoutKeys_nil, all, none, lanes]
    rfl
  | append_singleton keys key ih =>
    let before := h.registry.withoutKeys keys s
    let after := h.registry.withoutKeys (keys ++ [key]) s
    have spare : isSpare after (keys ++ [key]) =
        fun live => isSpare before keys live || isSpare after [key] live := by
      funext live
      exact (isSpare_withoutKeys_concat h.registry keys key s live).symm
    have kept := filter_not_or (isSpare before keys) (isSpare after [key]) h.sessions
    have silenced := silenceAll_perm
      (filter_append_filter_perm (isSpare before keys) (isSpare after [key]) h.sessions) h.sources
    rw [List.foldl_append] at silenced
    have lanes : (if after.contains s then
        if before.contains s then h.lanes else h.lanes.close s
        else (if before.contains s then h.lanes else h.lanes.close s).close s) =
          if after.contains s then h.lanes else h.lanes.close s := by
      cases still : after.contains s with
      | true =>
        have earlier : before.contains s = true := Registry.contains_withoutKeys_concat still
        rw [if_pos rfl, if_pos earlier, if_pos rfl]
      | false =>
        cases earlier : before.contains s with
        | true => rfl
        | false => exact regular.tidy.close_close s
    rw [List.foldl_append, ih]
    change unsubscribeFrom _ key s = _
    rw [unsubscribeFrom_unheard (silenceAll_partsInErrors _ curt)]
    simp only [Registry.withoutKeys_concat]
    rw [kept, silenced, lanes, spare]

theorem leave_all {h : Hub} (regular : h.Regular)
    (curt : ∀ source ∈ h.sources, source.PartsInErrors) {keys : List Identifier} {s : Subscriber}
    (all : keys.Perm (h.identifiersOf s)) (keyed : s ∉ h.registry.unfiltered) :
    keys.foldl (fun hub key => hub.unsubscribeFrom key s) h = h.unsubscribe s := by
  have registry : h.registry.withoutKeys keys s = h.registry.without s :=
    Registry.withoutKeys_keysOf all keyed
  have gone : (h.registry.without s).contains s = false := by
    rw [← Bool.not_eq_true, contains_without]
    exact fun still => still.2 rfl
  have spare : isSpare (h.registry.without s) keys =
      isSpare (h.registry.without s) (h.registry.keysOf s) := by
    funext live
    unfold isSpare
    rw [all.any_eq]
    rfl
  obtain ⟨lanes, unsubscribed⟩ := h.unsubscribe_eq s
  have own : lanes = h.lanes.close s := by
    rw [← unsubscribe_unheard curt s, unsubscribed]
  rw [leave_eq regular curt, unsubscribed, registry, spare, gone, own]
  rfl

theorem run_unsubscribeFrom (h : Hub) (keys : List Identifier) (name : String) :
    h.run (keys.map fun key => .unsubscribeFrom key name) =
      keys.foldl (fun hub key => hub.unsubscribeFrom key (.listener name)) h := by
  induction keys generalizing h with
  | nil => rfl
  | cons key keys ih => exact ih (h.unsubscribeFrom key (.listener name))

theorem run_queues {h : Hub} (regular : h.Regular) {moves : List Move}
    (aside : ∀ m ∈ moves, m.isWork = false) (s : Subscriber) :
    (h.run moves).lanes.waitingFor s = h.lanes.waitingFor s ++ h.queuedIn s moves := by
  induction moves generalizing h with
  | nil => exact (List.append_nil _).symm
  | cons m moves ih =>
    obtain ⟨now, later⟩ := List.forall_mem_cons.mp aside
    have rest := ih (move_regular regular m) later
    rw [(move_queues regular now s).2, List.append_assoc] at rest
    exact rest

/-- Someone without an unfiltered entry leaves a hub in the same state whether it gives up its
filters one by one, in any order, or all at once: the hubs are equal, and so are their registries,
sessions and sources. Its lane is closed and nothing is queued for anyone, neither at the end nor
on the way. -/
theorem run_leaving (config : Config) (moves : List Move) (name : String) (keys : List Identifier) :
    let h := (fresh config).run moves
    let each := keys.map fun key => Move.unsubscribeFrom key name
    (∀ source ∈ h.sources, source.PartsInErrors) → .listener name ∉ h.registry.unfiltered →
      keys.Perm (h.identifiersOf (.listener name)) →
        h.run each = h.move (.unsubscribe name) ∧
          (h.move (.unsubscribe name)).lanes = h.lanes.close (.listener name) ∧
          ∀ s, h.queuedIn s each = [] ∧ h.queuedFor s (.unsubscribe name) = [] := by
  intro h each curt keyed all
  have regular : h.Regular := run_regular (fresh_regular config) moves
  have same : h.run each = h.move (.unsubscribe name) :=
    (run_unsubscribeFrom h keys name).trans (leave_all regular curt all keyed)
  have lanes : (h.move (.unsubscribe name)).lanes = h.lanes.close (.listener name) :=
    unsubscribe_unheard curt (.listener name)
  refine ⟨same, lanes, ?_⟩
  intro s
  have atOnce : h.queuedFor s (.unsubscribe name) = [] := by
    apply queuedFor_of_held
    rw [lanes, Lanes.heldFor_close, List.append_nil]
  refine ⟨?_, atOnce⟩
  have aside : ∀ m ∈ each, m.isWork = false := by
    intro m member
    obtain ⟨key, _, rfl⟩ := List.mem_map.mp member
    rfl
  have oneByOne := run_queues regular aside s
  rw [same, (move_queues regular rfl s).2, atOnce] at oneByOne
  exact (List.append_cancel_left oneByOne).symm

/-- Two of three filters are on one session, which stays until both are given up; another session is
shared and a third one was there before. -/
theorem run_leaving_overlapping :
    let site := quietSite [⟨some "1", "a"⟩, ⟨some "2", "b"⟩]
    let h := (fresh {}).run [.appeared site ⟨some "2", "b"⟩, .appeared site ⟨some "3", "c"⟩,
      .subscribeTo site (.ofPortName "a") "x", .subscribeTo site (.ofPortName "b") "x",
      .subscribeTo site (.ofPortId "1") "x", .subscribeTo site (.ofPortId "2") "y"]
    let each := [Move.unsubscribeFrom (.ofPortId "1") "x", .unsubscribeFrom (.ofPortName "b") "x",
      .unsubscribeFrom (.ofPortName "a") "x"]
    h.run each = h.move (.unsubscribe "x") ∧
      (h.sessions.map Live.source, (h.move (.unsubscribe "x")).sessions.map Live.source) =
        ([0, 1, 2], [0, 1]) := by
  intro site h each
  have curt : ∀ source ∈ h.sources, source.PartsInErrors := by
    intro source member signal said
    have silent : ∀ source ∈ h.sources, source.script.lastWords = [] := by decide
    rw [silent source member] at said
    cases said
  have leaving := run_leaving {} [.appeared site ⟨some "2", "b"⟩, .appeared site ⟨some "3", "c"⟩,
    .subscribeTo site (.ofPortName "a") "x", .subscribeTo site (.ofPortName "b") "x",
    .subscribeTo site (.ofPortId "1") "x", .subscribeTo site (.ofPortId "2") "y"] "x"
    [.ofPortId "1", .ofPortName "b", .ofPortName "a"] curt (by decide) (by decide)
  exact ⟨leaving.1, by decide⟩

end Hub

end MeterHub
