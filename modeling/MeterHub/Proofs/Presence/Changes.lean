import Mathlib.Data.Finset.Basic
import Mathlib.Data.List.Nodup
import Mathlib.Data.List.Induction
import MeterHub.Presence

/-!
Changes of presence from snapshot to snapshot. Whoever replays the changes has the ports of the last
snapshot, and where no snapshot lists a port twice, each port appears and disappears in turn.
-/

set_option autoImplicit false
set_option relaxedAutoImplicit false

namespace MeterHub.Presence

theorem mem_changes_appeared {previous current : List Port} {port : Port} :
    .appeared port ∈ changes previous current ↔ port ∈ current ∧ port ∉ previous := by
  simp [changes]

theorem mem_changes_disappeared {previous current : List Port} {port : Port} :
    .disappeared port ∈ changes previous current ↔ port ∈ previous ∧ port ∉ current := by
  simp [changes]

def isAppearance : Presence → Bool
  | .appeared _ => true
  | .disappeared _ => false

theorem changes_ordered (previous current : List Port) :
    (changes previous current).Pairwise fun a b =>
      a.isAppearance = true → b.isAppearance = true := by
  unfold changes
  rw [List.pairwise_append, List.pairwise_map, List.pairwise_map]
  refine ⟨List.pairwise_of_forall fun _ _ => nofun, List.pairwise_of_forall fun _ _ _ => rfl, ?_⟩
  intro a gone b _ appearance
  obtain ⟨port, _, rfl⟩ := List.mem_map.mp gone
  cases appearance

theorem changes_nodup {previous current : List Port} (before : previous.Nodup)
    (after : current.Nodup) : (changes previous current).Nodup := by
  unfold changes
  rw [List.nodup_append]
  refine ⟨(before.filter _).map fun a b => disappeared.inj, (after.filter _).map fun a b =>
    appeared.inj, ?_⟩
  intro a gone b new same
  obtain ⟨port, _, rfl⟩ := List.mem_map.mp gone
  obtain ⟨port', _, rfl⟩ := List.mem_map.mp new
  cases same

/-- The ports that are there after a change. -/
def replayOne (ports : Finset Port) : Presence → Finset Port
  | .appeared port => insert port ports
  | .disappeared port => ports.erase port

/-- The ports that are there after some changes. -/
def replay (ports : Finset Port) (changes : List Presence) : Finset Port :=
  changes.foldl replayOne ports

theorem replay_append (ports : Finset Port) (changes more : List Presence) :
    replay ports (changes ++ more) = replay (replay ports changes) more := List.foldl_append

theorem replay_disappeared (ports : Finset Port) (gone : List Port) :
    replay ports (gone.map disappeared) = ports \ gone.toFinset := by
  induction gone generalizing ports with
  | nil => simp [replay]
  | cons port gone ih =>
    rw [List.map_cons, replay, List.foldl_cons, ← replay, ih, List.toFinset_cons]
    ext other
    simp only [replayOne, Finset.mem_sdiff, Finset.mem_erase, Finset.mem_insert]
    tauto

theorem replay_appeared (ports : Finset Port) (new : List Port) :
    replay ports (new.map appeared) = ports ∪ new.toFinset := by
  induction new generalizing ports with
  | nil => simp [replay]
  | cons port new ih =>
    rw [List.map_cons, replay, List.foldl_cons, ← replay, ih, List.toFinset_cons]
    ext other
    simp only [replayOne, Finset.mem_union, Finset.mem_insert]
    tauto

theorem replay_changes (previous current : List Port) :
    replay previous.toFinset (changes previous current) = current.toFinset := by
  unfold changes
  rw [replay_append, replay_disappeared, replay_appeared]
  ext port
  simp only [Finset.mem_union, Finset.mem_sdiff, List.mem_toFinset, List.mem_filter,
    Bool.not_eq_true', List.contains_eq_mem, decide_eq_false_iff_not]
  tauto

/-- The changes from snapshot to snapshot, where the first one is compared with one before. -/
def streamFrom (previous : List Port) : List (List Port) → List Presence
  | [] => []
  | current :: later => changes previous current ++ streamFrom current later

/-- The changes from snapshot to snapshot, where nothing is there at first. -/
def stream (snapshots : List (List Port)) : List Presence := streamFrom [] snapshots

theorem streamFrom_concat (previous : List Port) (snapshots : List (List Port))
    (current : List Port) :
    streamFrom previous (snapshots ++ [current]) =
      streamFrom previous snapshots ++ changes (snapshots.getLastD previous) current := by
  induction snapshots generalizing previous with
  | nil => simp [streamFrom]
  | cons snapshot snapshots ih =>
    rw [List.cons_append, streamFrom, ih, streamFrom, List.append_assoc, List.getLastD_cons]

theorem stream_concat (snapshots : List (List Port)) (current : List Port) :
    stream (snapshots ++ [current]) =
      stream snapshots ++ changes (snapshots.getLastD []) current :=
  streamFrom_concat [] snapshots current

theorem replay_stream (snapshots : List (List Port)) :
    replay ∅ (stream snapshots) = (snapshots.getLastD []).toFinset := by
  induction snapshots using List.reverseRecOn with
  | nil => rfl
  | append_singleton snapshots current ih =>
    rw [stream_concat, replay_append, ih, replay_changes, List.getLastD_concat]

/-- The changes of one port, in order. -/
def about (port : Port) (changes : List Presence) : List Presence :=
  changes.filter fun change => change.port = port

theorem about_append (port : Port) (changes more : List Presence) :
    about port (changes ++ more) = about port changes ++ about port more := List.filter_append _ _

/-- The change of a port that is due after a number of changes of it. -/
def turn (port : Port) (place : Nat) : Presence :=
  if place % 2 = 0 then .appeared port else .disappeared port

private theorem filter_port_eq {snapshot : List Port} (once : snapshot.Nodup) (keep : Port → Bool)
    (port : Port) :
    (snapshot.filter keep).filter (fun other => other = port) =
      if port ∈ snapshot ∧ keep port = true then [port] else [] := by
  have rest : (snapshot.filter keep).Nodup := once.filter keep
  have same : (fun other : Port => decide (other = port)) = fun other => other == port := by
    funext other
    rfl
  rw [same, List.filter_beq, rest.count]
  simp only [List.mem_filter]
  split <;> rfl

theorem about_changes {previous current : List Port} (before : previous.Nodup)
    (after : current.Nodup) (port : Port) :
    about port (changes previous current) =
      if port ∈ previous ↔ port ∈ current then []
      else if port ∈ previous then [.disappeared port] else [.appeared port] := by
  unfold about changes
  rw [List.filter_append, List.filter_map, List.filter_map]
  have gone := filter_port_eq before (fun port => !current.contains port) port
  have new := filter_port_eq after (fun port => !previous.contains port) port
  change ((previous.filter _).filter fun other => other = port).map disappeared ++
    ((current.filter _).filter fun other => other = port).map appeared = _
  rw [gone, new]
  by_cases there : port ∈ previous <;> by_cases still : port ∈ current <;> simp [there, still]

theorem about_changes_turn {previous current : List Port} (before : previous.Nodup)
    (after : current.Nodup) {port : Port} {number : Nat}
    (parity : port ∈ previous ↔ number % 2 = 1) :
    ∃ next, (List.range number).map (turn port) ++ about port (changes previous current) =
        (List.range next).map (turn port) ∧ (port ∈ current ↔ next % 2 = 1) := by
  rw [about_changes before after]
  by_cases same : port ∈ previous ↔ port ∈ current
  · refine ⟨number, ?_, same.symm.trans parity⟩
    rw [if_pos same, List.append_nil]
  · have due : (if port ∈ previous then [.disappeared port] else [.appeared port]) =
        [turn port number] := by
      unfold turn
      by_cases there : port ∈ previous
      · have odd : ¬number % 2 = 0 := by
          have := parity.mp there
          omega
        rw [if_pos there, if_neg odd]
      · have even : number % 2 = 0 := by
          have := mt parity.mpr there
          omega
        rw [if_neg there, if_pos even]
    refine ⟨number + 1, ?_, ?_⟩
    · rw [if_neg same, due, List.range_succ, List.map_append, List.map_singleton]
    · have flipped : port ∈ current ↔ ¬port ∈ previous := by tauto
      rw [flipped, parity]
      omega

theorem about_stream {snapshots : List (List Port)}
    (once : ∀ snapshot ∈ snapshots, snapshot.Nodup) (port : Port) :
    ∃ number, about port (stream snapshots) = (List.range number).map (turn port) ∧
      (port ∈ snapshots.getLastD [] ↔ number % 2 = 1) := by
  induction snapshots using List.reverseRecOn with
  | nil => exact ⟨0, rfl, by simp⟩
  | append_singleton snapshots current ih =>
    obtain ⟨earlier, last⟩ := List.forall_mem_append.mp once
    have after : current.Nodup := List.forall_mem_singleton.mp last
    have before : (snapshots.getLastD []).Nodup := by
      rw [List.getLastD_eq_getLast?]
      cases known : snapshots.getLast? with
      | none => exact List.nodup_nil
      | some snapshot => exact earlier snapshot (List.mem_of_getLast? known)
    obtain ⟨number, turns, parity⟩ := ih earlier
    obtain ⟨next, continued, parity'⟩ := about_changes_turn before after parity
    refine ⟨next, ?_, ?_⟩
    · rw [stream_concat, about_append, turns, continued]
    · rw [List.getLastD_concat]
      exact parity'

end MeterHub.Presence
