import Mathlib.Data.List.Count
import Mathlib.Logic.Function.Iterate
import MeterHub.Proofs.Hub.Fanout

/-!
What releasing a key closes: just the sessions that nobody needs, in silence. The sessions that go
are settled by the registry before any of them stops. Whatever they say then is said about streams
that nobody wants to hear about, so the registry and the lanes stay as they are, and one key does
not stand in the way of another one.
-/

set_option autoImplicit false
set_option relaxedAutoImplicit false

namespace MeterHub.Hub

/-- A session that may go when a key is released: it is not native, the key designates it, and
nobody has an entry by which to be told about it. If only the sessions of reads may go, it is one of
them. -/
structure IsDispensable (h : Hub) (key : Identifier) (ephemeralOnly : Bool) (live : Live) : Prop where
  native : live.session.native = false
  ephemeral : ephemeralOnly = true → live.session.ephemeral = true
  designated : key.agrees live.identifier = true
  unwanted : ∀ s, ¬IsTold h.registry s live.identifier

variable {h : Hub} {key : Identifier} {ephemeralOnly : Bool} {live : Live}

theorem isUnused_iff_isDispensable :
    h.isUnused key ephemeralOnly live = true ↔ IsDispensable h key ephemeralOnly live := by
  have unwanted : (h.interest live.identifier).isEmpty = true ↔
      ∀ s, ¬IsTold h.registry s live.identifier := by
    rw [List.isEmpty_iff, List.eq_nil_iff_forall_not_mem]
    exact forall_congr' fun s => not_congr isTold_iff.symm
  have kind : (!ephemeralOnly || live.session.ephemeral) = true ↔
      (ephemeralOnly = true → live.session.ephemeral = true) := by
    cases ephemeralOnly <;> simp
  unfold isUnused
  rw [Bool.and_eq_true, Bool.and_eq_true, Bool.and_eq_true, unwanted, kind, Bool.not_eq_true']
  constructor
  · rintro ⟨⟨⟨native, ephemeral⟩, designated⟩, unwanted⟩
    exact ⟨native, ephemeral, designated, unwanted⟩
  · rintro ⟨native, ephemeral, designated, unwanted⟩
    exact ⟨⟨⟨native, ephemeral⟩, designated⟩, unwanted⟩

instance (h : Hub) (key : Identifier) (ephemeralOnly : Bool) (live : Live) :
    Decidable (IsDispensable h key ephemeralOnly live) :=
  decidable_of_iff _ isUnused_iff_isDispensable

theorem isUnused_eq_decide (h : Hub) (key : Identifier) (ephemeralOnly : Bool) :
    h.isUnused key ephemeralOnly = fun live => decide (IsDispensable h key ephemeralOnly live) := by
  funext live
  rw [Bool.eq_iff_iff, decide_eq_true_iff]
  exact isUnused_iff_isDispensable

def dispensable (h : Hub) (key : Identifier) (ephemeralOnly : Bool) : List Live :=
  h.sessions.filter fun live => IsDispensable h key ephemeralOnly live

theorem getElem?_silenceAll_count (lives : List Live) (sources : List Source) (index : Nat) :
    (lives.foldl silence sources)[index]? =
      (sources[index]?).map (fun source => source.stop.2)^[(lives.map Live.source).count index] := by
  induction lives generalizing sources with
  | nil => simp
  | cons live lives ih =>
    rw [List.foldl_cons, ih, getElem?_silence, List.map_cons, List.count_cons]
    by_cases own : live.source = index
    · simp [own, Option.map_map, Function.iterate_succ]
    · simp [own]

/-- What releasing a key does to a hub. The sessions that may go are no longer listed, and for each
of them its source is stopped once; so a source that belonged to one of them is done. The other
sessions stay as they are and in order, and so does everything else, the registry among it. If the
sources that are stopped say nothing but errors, not even the lanes change. -/
structure Relieves (h : Hub) (key : Identifier) (ephemeralOnly : Bool) (after : Hub) : Prop where
  sessions : after.sessions = h.sessions.filter fun live => ¬IsDispensable h key ephemeralOnly live
  sources : ∀ index, after.sources[index]? = (h.sources[index]?).map
    (fun source => source.stop.2)^[((h.dispensable key ephemeralOnly).map Live.source).count index]
  done : h.Orderly → ∀ live ∈ h.dispensable key ephemeralOnly,
    ∃ source, after.sources[live.source]? = some source ∧ source.Ended
  rest : after = { h with
    lanes := after.lanes, sessions := after.sessions, sources := after.sources }
  silent : (∀ live ∈ h.dispensable key ephemeralOnly, PartsInErrors h.sources live) →
    after.lanes = h.lanes

theorem release_closes (h : Hub) (key : Identifier) (ephemeralOnly : Bool) :
    Closes (h.isUnused key ephemeralOnly) h (h.release key ephemeralOnly) := by
  obtain ⟨_, released⟩ := release_eq h key ephemeralOnly
  rw [released]
  exact ⟨rfl, rfl, rfl⟩

theorem release_relieves (h : Hub) (key : Identifier) (ephemeralOnly : Bool) :
    Relieves h key ephemeralOnly (h.release key ephemeralOnly) := by
  have closes := release_closes h key ephemeralOnly
  have gone : h.sessions.filter (h.isUnused key ephemeralOnly) = h.dispensable key ephemeralOnly := by
    rw [isUnused_eq_decide]
    rfl
  constructor
  · rw [closes.sessions, isUnused_eq_decide]
    simp only [decide_not]
  · intro index
    rw [closes.sources, gone]
    exact getElem?_silenceAll_count _ h.sources index
  · intro orderly live member
    rw [← gone, List.mem_filter] at member
    obtain ⟨listed, unused⟩ := member
    have unlisted : live.source ∉ (h.release key ephemeralOnly).sessions.map Live.source := by
      rw [closes.sessions, orderly.unlisted_iff listed]
      exact unused
    have bound : live.source < (h.release key ephemeralOnly).sources.length := by
      rw [closes.sources, length_silenceAll]
      exact orderly.bounded listed
    have entered := List.getElem?_eq_getElem bound
    exact ⟨_, entered, (closes.orderly orderly).ended _ _ entered unlisted⟩
  · obtain ⟨_, released⟩ := release_eq h key ephemeralOnly
    rw [released]
  · intro curt
    apply release_unheard
    intro live listed unused
    apply curt
    rw [← gone]
    exact List.mem_filter.mpr ⟨listed, unused⟩

theorem releaseEach_sessions (h : Hub) (keys : List Identifier) (ephemeralOnly : Bool) :
    (keys.foldl (fun hub key => hub.release key ephemeralOnly) h).sessions =
      h.sessions.filter fun live => ∀ key ∈ keys, ¬IsDispensable h key ephemeralOnly live := by
  obtain ⟨_, released⟩ := releaseEach_eq h keys ephemeralOnly
  rw [released]
  apply List.filter_congr
  intro live _
  rw [Bool.eq_iff_iff, decide_eq_true_iff, Bool.not_eq_true', List.any_eq_false]
  exact forall₂_congr fun key _ => not_congr isUnused_iff_isDispensable

theorem releaseEach_perm {keys keys' : List Identifier} (perm : keys'.Perm keys) (h : Hub)
    (ephemeralOnly : Bool) :
    let after (keys : List Identifier) :=
      keys.foldl (fun hub key => hub.release key ephemeralOnly) h
    after keys' = { after keys with lanes := (after keys').lanes } := by
  intro after
  obtain ⟨_, first⟩ := releaseEach_eq h keys ephemeralOnly
  obtain ⟨_, second⟩ := releaseEach_eq h keys' ephemeralOnly
  -- both orders close what some key releases
  simp only [after, first, second, perm.any_eq]

/-- Releasing a key closes just the live sessions that nobody needs, each once and in silence, and
leaves all else as it is. Releasing some keys one by one leaves the same sessions in whatever order
the keys come, and the same hub where sources part in errors. -/
theorem release_relief (h : Hub) :
    (∀ key ephemeralOnly, Relieves h key ephemeralOnly (h.release key ephemeralOnly)) ∧
      ∀ (keys : List Identifier) (ephemeralOnly : Bool),
        let after (keys : List Identifier) :=
          keys.foldl (fun hub key => hub.release key ephemeralOnly) h
        ((after keys).sessions =
          h.sessions.filter fun live => ∀ key ∈ keys, ¬IsDispensable h key ephemeralOnly live) ∧
        ∀ keys', keys'.Perm keys → (after keys').sessions = (after keys).sessions ∧
          ((∀ source ∈ h.sources, source.PartsInErrors) → after keys' = after keys) := by
  refine ⟨release_relieves h, ?_⟩
  intro keys ephemeralOnly after
  refine ⟨releaseEach_sessions h keys ephemeralOnly, ?_⟩
  intro keys' perm
  have same : after keys' = { after keys with lanes := (after keys').lanes } :=
    releaseEach_perm perm h ephemeralOnly
  refine ⟨by rw [same], ?_⟩
  intro curt
  have silent : (after keys').lanes = (after keys).lanes :=
    (releaseEach_unheard curt keys' ephemeralOnly).trans
      (releaseEach_unheard curt keys ephemeralOnly).symm
  rw [same, silent]

/-- Two of three sessions on ports of one name go with the name, whichever key comes first, and
their sources report errors meanwhile; the third is wanted by its id, and another session is native.
-/
theorem release_relief_same_names :
    let curt : Opening := fun _ _ => .ok { lastWords := [.error "gone"] }
    let site : Site := { quietSite [] with opening := curt }
    let h := (fresh { nativePorts := ["n"] }).run [.appeared site ⟨some "1", "a"⟩,
      .appeared site ⟨some "2", "a"⟩, .appeared site ⟨some "3", "a"⟩,
      .appeared site ⟨some "4", "n"⟩, .subscribeTo site (.ofPortId "3") "x"]
    let after := h.release (.ofPortName "a") false
    after.sessions.map Live.source = [2, 3] ∧
      (∃ source, after.sources[0]? = some source ∧ source.Ended) ∧ after.lanes = h.lanes ∧
      (h.release (.ofPortId "2") false).release (.ofPortName "a") false =
        (h.release (.ofPortName "a") false).release (.ofPortId "2") false := by
  intro curt site h after
  have words : ∀ source ∈ h.sources, source.PartsInErrors := by
    intro source member signal said
    have ledger : ∀ source ∈ h.sources, source.script.lastWords = [.error "gone"] := by decide
    rw [ledger source member] at said
    exact ⟨"gone", List.mem_singleton.mp said⟩
  obtain ⟨one, several⟩ := release_relief h
  obtain ⟨sessions, -, done, -, silent⟩ := one (.ofPortName "a") false
  obtain ⟨live, goes, first⟩ :
    ∃ live ∈ h.dispensable (.ofPortName "a") false, live.source = 0 := by decide
  refine ⟨?_, ?_, silent fun live _ => partsInErrors_of_all words live, ?_⟩
  · exact (congrArg (List.map Live.source) sessions).trans (by decide)
  · exact first ▸ done (run_orderly _ _) live goes
  · exact ((several [.ofPortName "a", .ofPortId "2"] false).2 [.ofPortId "2", .ofPortName "a"]
      (.swap _ _ [])).2 words

end MeterHub.Hub
