import MeterHub.Proofs.Hub.Order

/-!
The life of a source. Every source that was ever opened is in the ledger for good. It is started
once, it runs as long as its session is live, and it is stopped once, by the move that takes the
session from the list, or at once if its start has failed.
-/

set_option autoImplicit false
set_option relaxedAutoImplicit false

namespace MeterHub.Hub

/-- Whether the source at an index is that of a live session. -/
def IsLive (h : Hub) (index : Nat) : Prop := index ∈ h.sessions.map Live.source

instance (h : Hub) (index : Nat) : Decidable (h.IsLive index) :=
  inferInstanceAs (Decidable (index ∈ h.sessions.map Live.source))

theorem Orderly.isLive_iff_mem {h h' : Hub} (orderly : h.Orderly)
    (fewer : h'.sessions ⊆ h.sessions) {live : Live} (member : live ∈ h.sessions) :
    h'.IsLive live.source ↔ live ∈ h'.sessions := by
  refine ⟨?_, List.mem_map_of_mem⟩
  intro listed
  obtain ⟨other, still, same⟩ := List.mem_map.mp listed
  exact orderly.of_source_eq (fewer still) member same ▸ still

theorem Growth.entered {reading : Bool} {h h' : Hub} (growth : Growth reading h h') {index : Nat}
    {source : Source} (entered : h.sources[index]? = some source) :
    h'.sources[index]? = some source := by
  cases growth with
  | aside config sessions sources => exact sources ▸ entered
  | refused last ended config sessions sources => exact sources ▸ entered_still entered last
  | opened last live acquires at_index free placed native ephemeral config sessions sources =>
    exact sources ▸ entered_still entered last
  | altered change continues config sessions sources => exact sources ▸ entered

theorem Grows.entered {reading : Bool} {h h' : Hub} (grows : Grows reading h h') {index : Nat}
    {source : Source} (entered : h.sources[index]? = some source) :
    h'.sources[index]? = some source := by
  induction grows with
  | refl => exact entered
  | tail _ growth ih => exact growth.entered ih

theorem Grows.isLive {reading : Bool} {h h' : Hub} (grows : Grows reading h h') {index : Nat}
    (live : h.IsLive index) : h'.IsLive index := by
  obtain ⟨session, member, rfl⟩ := List.mem_map.mp live
  obtain ⟨after, listed, continues⟩ := grows.continued member
  exact continues.source ▸ List.mem_map_of_mem listed

theorem Closes.mem_gone_iff {gone : Live → Bool} {h h' : Hub} (closes : Closes gone h h')
    (orderly : h.Orderly) (index : Nat) :
    index ∈ (h.sessions.filter gone).map Live.source ↔ h.IsLive index ∧ ¬h'.IsLive index := by
  unfold IsLive
  rw [closes.sessions]
  constructor
  · intro listed
    obtain ⟨session, member, rfl⟩ := List.mem_map.mp listed
    obtain ⟨there, doomed⟩ := List.mem_filter.mp member
    exact ⟨List.mem_map_of_mem there, (orderly.unlisted_iff there).mpr doomed⟩
  · rintro ⟨listed, unlisted⟩
    obtain ⟨session, there, rfl⟩ := List.mem_map.mp listed
    have doomed := (orderly.unlisted_iff there).mp unlisted
    exact List.mem_map_of_mem (List.mem_filter.mpr ⟨there, doomed⟩)

theorem move_source {h : Hub} (orderly : h.Orderly) (m : Move) {index : Nat} {source : Source}
    (entered : h.sources[index]? = some source) :
    (h.move m).sources[index]? =
      some (if h.IsLive index ∧ ¬(h.move m).IsLive index then source.stop.2 else source) := by
  rcases move_accounted orderly m with grows | ⟨gone, _, closes⟩
  · rw [if_neg fun goes => goes.2 (grows.isLive goes.1)]
    exact grows.entered entered
  · have distinct : ((h.sessions.filter gone).map Live.source).Nodup :=
      orderly.distinct.sublist (List.filter_sublist.map Live.source)
    rw [closes.sources, getElem?_silenceAll distinct, entered]
    simp only [closes.mem_gone_iff orderly]
    split <;> rfl

theorem move_continued {h : Hub} (orderly : h.Orderly) {m : Move} {live : Live}
    (member : live ∈ h.sessions) (stays : (h.move m).IsLive live.source) :
    ∃ after ∈ (h.move m).sessions, live.Continues after := by
  rcases move_accounted orderly m with grows | ⟨gone, _, closes⟩
  · exact grows.continued member
  · have fewer : (h.move m).sessions ⊆ h.sessions := closes.sessions ▸ List.filter_subset_self _
    exact ⟨live, (orderly.isLive_iff_mem fewer member).mp stays, .refl live⟩

theorem move_unlisted {h : Hub} (orderly : h.Orderly) {index : Nat}
    (bound : index < h.sources.length) (unlisted : ¬h.IsLive index) (m : Move) :
    ¬(h.move m).IsLive index := by
  intro listed
  obtain ⟨live, member, rfl⟩ := List.mem_map.mp listed
  rcases move_accounted orderly m with grows | ⟨gone, _, closes⟩
  · rcases grows.origin member with ⟨old, there, continues⟩ | ⟨new, _⟩
    · exact unlisted (continues.source ▸ List.mem_map_of_mem there)
    · omega
  · rw [closes.sessions] at member
    exact unlisted (List.mem_map_of_mem (List.mem_filter.mp member).1)

theorem Opens.enters {h after : Hub} {opening : Opening} {port : Port}
    {result : Except Failure (Nat × Bool)} (opens : Opens h opening port result after) {mode : Mode}
    {script : Script} (free : ∀ live ∈ h.sessions, live.port.same port = false)
    (defined : h.config.defaultMode = some mode) (granted : opening port mode = .ok script) :
    ∃ source, after.sources = h.sources ++ [source] ∧
      source.port = port ∧ source.mode = mode ∧ source.script = script := by
  cases opens with
  | @held live found =>
    have member : live ∈ h.sessions := List.mem_of_find?_eq_some found
    have same : live.port.same port = true := by simpa using List.find?_some found
    rw [free live member] at same
    cases same
  | modeless _ undefined =>
    rw [defined] at undefined
    cases undefined
  | unopened _ defined' refused =>
    obtain rfl := Option.some.inj (defined.symm.trans defined')
    rw [granted] at refused
    cases refused
  | unstarted _ defined' granted' refused =>
    obtain rfl := Option.some.inj (defined.symm.trans defined')
    obtain rfl := Except.ok.inj (granted.symm.trans granted')
    exact ⟨_, rfl, rfl, rfl, rfl⟩
  | opened _ defined' granted' started =>
    obtain rfl := Option.some.inj (defined.symm.trans defined')
    obtain rfl := Except.ok.inj (granted.symm.trans granted')
    exact ⟨_, rfl, rfl, rfl, rfl⟩

theorem run_unlisted {h : Hub} (orderly : h.Orderly) {index : Nat}
    (bound : index < h.sources.length) (unlisted : ¬h.IsLive index) (moves : List Move) :
    ¬(h.run moves).IsLive index := by
  induction moves generalizing h with
  | nil => exact unlisted
  | cons m moves ih =>
    have still := Nat.lt_of_lt_of_le bound (move_sources_le orderly m)
    exact ih (move_orderly orderly m) still (move_unlisted orderly bound unlisted m)

end MeterHub.Hub
