import MeterHub.Proofs.Hub.Closing
import MeterHub.Proofs.Registry.Interest

/-!
What announcing an unplugged device comes to. Everyone who is interested is told in turn, so that in
the end the registry has forgotten the device and the sessions that this leaves spare are closed.
-/

set_option autoImplicit false
set_option relaxedAutoImplicit false

namespace MeterHub.Hub

theorem tell_registry (i : Identifier) (a : Announcement) (s : Subscriber) :
    (a.tell i s).hub.registry = a.hub.registry.dismiss Identifier.agrees i [s] := by
  change ({ unfiltered := _, filtered := _ } : Registry Identifier Subscriber) = _
  unfold Registry.dismiss
  congr 1
  · apply List.filter_congr
    intro t _
    by_cases same : t = s <;> simp [same]
  · apply List.filter_congr
    intro entry _
    by_cases same : entry.2 = s <;> simp [same]

theorem mem_tell_released {i : Identifier} {a : Announcement} {s : Subscriber} {key : Identifier} :
    key ∈ (a.tell i s).released ↔
      key ∈ a.released ∨ (key, s) ∈ a.hub.registry.filtered ∧ key.agrees i = true := by
  have released : (a.tell i s).released = a.released ++
      (a.hub.registry.filtered.filter fun entry =>
        entry.2 == s && entry.1.agrees i).map (·.1) := rfl
  rw [released, List.mem_append, List.mem_map]
  constructor
  · rintro (before | ⟨⟨key', t⟩, member, rfl⟩)
    · exact .inl before
    · obtain ⟨entered, hit⟩ := List.mem_filter.mp member
      obtain ⟨same, agree⟩ : t = s ∧ key'.agrees i = true := by simpa using hit
      exact .inr ⟨same ▸ entered, agree⟩
  · rintro (before | ⟨entered, agree⟩)
    · exact .inl before
    · exact .inr ⟨(key, s), List.mem_filter.mpr ⟨entered, by simp [agree]⟩, rfl⟩

theorem tellAll_eq (i : Identifier) (told : List Subscriber) (a : Announcement) :
    ∃ lanes, (told.foldl (Announcement.tell i) a).hub =
      { a.hub with lanes, registry := a.hub.registry.dismiss Identifier.agrees i told } := by
  induction told generalizing a with
  | nil => exact ⟨a.hub.lanes, by rw [Registry.dismiss_nil]; rfl⟩
  | cons s told ih =>
    obtain ⟨lanes, rest⟩ := ih (a.tell i s)
    refine ⟨lanes, ?_⟩
    rw [List.foldl_cons, rest, tell_registry, Registry.dismiss_cons]
    rfl

theorem mem_tellAll_released {i : Identifier} {told : List Subscriber} {a : Announcement}
    {key : Identifier} :
    key ∈ (told.foldl (Announcement.tell i) a).released ↔
      key ∈ a.released ∨
        ∃ s ∈ told, (key, s) ∈ a.hub.registry.filtered ∧ key.agrees i = true := by
  induction told generalizing a with
  | nil => simp
  | cons s told ih =>
    rw [List.foldl_cons, ih, mem_tell_released]
    simp only [tell_registry, Registry.mem_dismiss, List.mem_singleton]
    constructor
    · rintro ((before | first) | ⟨t, later, ⟨entered, _⟩, agree⟩)
      · exact .inl before
      · exact .inr ⟨s, List.mem_cons_self, first⟩
      · exact .inr ⟨t, List.mem_cons_of_mem s later, entered, agree⟩
    · rintro (before | ⟨t, member, entered, agree⟩)
      · exact .inl (.inl before)
      · rcases List.mem_cons.mp member with same | later
        · exact .inl (.inr ⟨same ▸ entered, agree⟩)
        by_cases same : t = s
        · exact .inl (.inr ⟨same ▸ entered, agree⟩)
        · exact .inr ⟨t, later, ⟨entered, fun both => same both.1⟩, agree⟩

theorem closeLanes_eq (h : Hub) (detached : List Subscriber) :
    ∃ lanes, detached.foldl closeLane h = { h with lanes } := by
  induction detached generalizing h with
  | nil => exact ⟨h.lanes, rfl⟩
  | cons s detached ih =>
    obtain ⟨lanes, rest⟩ := ih (h.closeLane s)
    exact ⟨lanes, rest⟩

def unplugged (h : Hub) (i : Identifier) : Registry Identifier Subscriber :=
  h.registry.dismiss Identifier.agrees i (h.interest i)

theorem unplugged_unfiltered (h : Hub) (i : Identifier) : (h.unplugged i).unfiltered = [] := by
  unfold unplugged interest
  rw [Registry.dismiss_interested]

theorem mem_unplugged {h : Hub} {i : Identifier} {entry : Identifier × Subscriber} :
    entry ∈ (h.unplugged i).filtered ↔
      entry ∈ h.registry.filtered ∧ entry.1.agrees i = false := by
  unfold unplugged interest
  rw [Registry.dismiss_interested]
  simp

theorem kept_or_released {h : Hub} {i : Identifier} {keys : List Identifier}
    (released : ∀ key,
      key ∈ keys ↔ (∃ s, (key, s) ∈ h.registry.filtered) ∧ key.agrees i = true) :
    ∀ entry ∈ h.registry.filtered, entry ∈ (h.unplugged i).filtered ∨ entry.1 ∈ keys := by
  rintro ⟨key, s⟩ entered
  cases agree : key.agrees i with
  | true => exact .inr ((released key).mpr ⟨⟨s, entered⟩, agree⟩)
  | false => exact .inl (mem_unplugged.mpr ⟨entered, agree⟩)

theorem announce_eq (h : Hub) (i : Identifier) :
    ∃ lanes keys,
      (∀ key, key ∈ keys ↔ (∃ s, (key, s) ∈ h.registry.filtered) ∧ key.agrees i = true) ∧
      h.announce i =
        { h with
          lanes
          registry := h.unplugged i
          sessions := h.sessions.filter fun live => !isSpare (h.unplugged i) keys live
          sources :=
            (h.sessions.filter (isSpare (h.unplugged i) keys)).foldl silence h.sources } := by
  let a := (h.interest i).foldl (Announcement.tell i) { hub := h }
  obtain ⟨_, told⟩ : ∃ lanes, a.hub = { h with lanes, registry := h.unplugged i } :=
    tellAll_eq i (h.interest i) { hub := h }
  obtain ⟨closedLanes, closed⟩ := closeLanes_eq a.hub a.detached
  obtain ⟨lanes, released⟩ := releaseAll_eq (a.detached.foldl closeLane a.hub) a.released
  refine ⟨lanes, a.released, ?_, ?_⟩
  · intro key
    rw [mem_tellAll_released]
    constructor
    · rintro (none | ⟨s, _, entered, agree⟩)
      · cases none
      · exact ⟨⟨s, entered⟩, agree⟩
    · rintro ⟨⟨s, entered⟩, agree⟩
      have interested : s ∈ h.interest i := Registry.mem_interested.mpr (.inr ⟨key, entered, agree⟩)
      exact .inr ⟨s, interested, entered, agree⟩
  · have hub : a.detached.foldl closeLane a.hub =
        { h with lanes := closedLanes, registry := h.unplugged i } := by
      rw [closed, told]
    change (a.detached.foldl closeLane a.hub).releaseAll a.released = _
    rw [released, hub]

theorem notify_absent {h : Hub} {index : Nat} (absent : h.notices[index]? = none) :
    h.notify index = h := by
  unfold notify
  rw [absent]

theorem notify_eq {h : Hub} {index : Nat} {i : Identifier} (noted : h.notices[index]? = some i) :
    ∃ lanes keys,
      (∀ key, key ∈ keys ↔ (∃ s, (key, s) ∈ h.registry.filtered) ∧ key.agrees i = true) ∧
      h.notify index =
        { h with
          lanes
          notices := h.notices.eraseIdx index
          registry := h.unplugged i
          sessions := h.sessions.filter fun live => !isSpare (h.unplugged i) keys live
          sources :=
            (h.sessions.filter (isSpare (h.unplugged i) keys)).foldl silence h.sources } := by
  obtain ⟨lanes, keys, released, announced⟩ :=
    announce_eq { h with notices := h.notices.eraseIdx index } i
  refine ⟨lanes, keys, released, ?_⟩
  unfold notify
  simp only [noted]
  rw [announced]
  rfl

end MeterHub.Hub
