import Mathlib.Data.List.Induction
import MeterHub.Proofs.Lanes.History
import MeterHub.Proofs.Lanes.Weaving

/-!
The spells of a listener: the events that are queued for it between two closes of its lane. Each
lane of the listener belongs to a spell of its own. Marking the lanes and what they hand over with
their spells shows that what the listener is handed is woven from its spells, whichever lane goes
first.
-/

set_option autoImplicit false
set_option relaxedAutoImplicit false

namespace MeterHub

variable {σ : Type}

/-- The events queued for a listener between closes of its lane, with those since the last close
apart. -/
structure Spells where
  past : List (List Event) := []
  now : List Event := []

namespace Spells

def follow (spells : Spells) : Happening → Spells
  | .queued event => { spells with now := spells.now ++ [event] }
  | .closed => ⟨spells.past ++ [spells.now], []⟩
  | _ => spells

def ofHistory (history : List Happening) : Spells := history.foldl follow {}

/-- All spells in order. -/
def rows (spells : Spells) : List (List Event) := spells.past ++ [spells.now]

theorem ofHistory_concat (history : List Happening) (happening : Happening) :
    ofHistory (history ++ [happening]) = (ofHistory history).follow happening :=
  List.foldl_concat ..

theorem getD_queued (spells : Spells) (event : Event) (k : Nat) :
    (spells.follow (.queued event)).rows.getD k [] =
      spells.rows.getD k [] ++ if spells.past.length = k then [event] else [] := by
  change (spells.past ++ [spells.now ++ [event]]).getD k [] =
    (spells.past ++ [spells.now]).getD k [] ++ _
  rcases Nat.lt_trichotomy k spells.past.length with before | rfl | after
  · rw [List.getD_append _ _ _ _ before, List.getD_append _ _ _ _ before,
      if_neg (Nat.ne_of_gt before), List.append_nil]
  · simp
  · rw [List.getD_eq_default, List.getD_eq_default, if_neg (Nat.ne_of_lt after)]
    · rfl
    · rw [List.length_append, List.length_singleton]
      exact after
    · rw [List.length_append, List.length_singleton]
      exact after

theorem getD_closed (spells : Spells) (k : Nat) :
    (spells.follow .closed).rows.getD k [] = spells.rows.getD k [] := by
  change (spells.rows ++ [[]]).getD k [] = _
  rcases Nat.lt_or_ge k spells.rows.length with early | late
  · rw [List.getD_append _ _ _ _ early]
  · rw [List.getD_append_right _ _ _ _ late, List.getD_eq_default _ _ late]
    cases k - spells.rows.length <;> rfl

theorem flatten_rows (history : List Happening) :
    (ofHistory history).rows.flatten = Happening.queuedIn history := by
  induction history using List.reverseRecOn with
  | nil => rfl
  | append_singleton history happening ih =>
    rw [ofHistory_concat, Happening.queuedIn_append, ← ih]
    unfold rows Happening.queuedIn
    cases happening with
    | queued event => simp [follow, Happening.queued?]
    | closed => simp [follow, Happening.queued?]
    | handed event => simp [follow, Happening.queued?]
    | ended event panicked => simp [follow, Happening.queued?]

end Spells

/-- What some lanes, each marked with its spell, still have waiting. -/
def waitingMarks (lanes : List (Nat × Lane σ)) : List (Nat × Event) :=
  lanes.flatMap fun (k, lane) => lane.queue.map fun event => (k, event)

theorem waitingMarks_append (lanes more : List (Nat × Lane σ)) :
    waitingMarks (lanes ++ more) = waitingMarks lanes ++ waitingMarks more := List.flatMap_append

theorem map_fst_waitingMarks {lanes : List (Nat × Lane σ)} {k : Nat}
    (absent : k ∉ lanes.map Prod.fst) : k ∉ (waitingMarks lanes).map Prod.fst := by
  intro marked
  obtain ⟨mark, member, rfl⟩ := List.mem_map.mp marked
  obtain ⟨entry, listed, queued⟩ := List.mem_flatMap.mp member
  obtain ⟨event, _, rfl⟩ := List.mem_map.mp queued
  exact absent (List.mem_map_of_mem listed)

theorem map_snd_waitingMarks (lanes : List (Nat × Lane σ)) :
    (waitingMarks lanes).map Prod.snd = Lane.waiting (lanes.map Prod.snd) := by
  unfold waitingMarks Lane.waiting
  rw [List.map_flatMap, List.flatMap_map]
  apply List.flatMap_congr
  intro entry _
  rw [List.map_map]
  exact List.map_id _

/-- The lanes of a listener, each marked with the number of the spell that it belongs to: the open
one with that of the present spell, every other one with that of a spell that is over. -/
structure Placed (now : Nat) (own : List (Lane σ)) (lanes : List (Nat × Lane σ)) : Prop where
  lanes_eq : lanes.map Prod.snd = own
  distinct : (lanes.map Prod.fst).Nodup
  closed : ∀ entry ∈ lanes, entry.2.isOpen = false → entry.1 < now
  opened : ∀ entry ∈ lanes, entry.2.isOpen = true → entry.1 = now

namespace Placed

variable {now : Nat} {own front back : List (Lane σ)} {lane : Lane σ}
variable {lanes : List (Nat × Lane σ)}

theorem split (placed : Placed now (front ++ lane :: back) lanes) :
    ∃ k early late, lanes = early ++ (k, lane) :: late ∧ early.map Prod.snd = front ∧
      late.map Prod.snd = back := by
  obtain ⟨early, rest, rfl, earlyOwn, restOwn⟩ := List.map_eq_append_iff.mp placed.lanes_eq
  obtain ⟨⟨k, marked⟩, late, rfl, rfl, lateOwn⟩ := List.map_eq_cons_iff.mp restOwn
  exact ⟨k, early, late, rfl, earlyOwn, lateOwn⟩

theorem changed {k : Nat} {early late : List (Nat × Lane σ)} {changed : Lane σ}
    (placed : Placed now own (early ++ (k, lane) :: late)) (same : changed.isOpen = lane.isOpen) :
    Placed now (early.map Prod.snd ++ changed :: late.map Prod.snd)
      (early ++ (k, changed) :: late) := by
  have either : ∀ entry ∈ early ++ (k, changed) :: late,
      ∃ old ∈ early ++ (k, lane) :: late, old.1 = entry.1 ∧ old.2.isOpen = entry.2.isOpen := by
    intro entry member
    rcases List.mem_append.mp member with before | after
    · exact ⟨entry, List.mem_append_left _ before, rfl, rfl⟩
    · rcases List.mem_cons.mp after with rfl | behind
      · exact ⟨(k, lane), List.mem_append_right _ List.mem_cons_self, rfl, same.symm⟩
      · exact ⟨entry, List.mem_append_right _ (List.mem_cons_of_mem _ behind), rfl, rfl⟩
  refine ⟨by rw [List.map_append, List.map_cons], ?_, ?_, ?_⟩
  · have distinct := placed.distinct
    rw [List.map_append, List.map_cons] at distinct ⊢
    exact distinct
  · intro entry member notOpen
    obtain ⟨old, listed, mark, state⟩ := either entry member
    rw [← mark]
    exact placed.closed old listed (state.trans notOpen)
  · intro entry member isOpen
    obtain ⟨old, listed, mark, state⟩ := either entry member
    rw [← mark]
    exact placed.opened old listed (state.trans isOpen)

theorem pushed (placed : Placed now (front ++ [lane]) lanes) (isOpen : lane.isOpen = true)
    (event : Event) :
    ∃ lanes', Placed now (front ++ [lane.push event]) lanes' ∧
      waitingMarks lanes' = waitingMarks lanes ++ [(now, event)] := by
  obtain ⟨k, early, late, rfl, rfl, lateOwn⟩ := placed.split
  obtain rfl := List.map_eq_nil_iff.mp lateOwn
  have number : k = now :=
    placed.opened (k, lane) (List.mem_append_right _ List.mem_cons_self) isOpen
  have same : (lane.push event).isOpen = lane.isOpen := rfl
  refine ⟨_, placed.changed same, ?_⟩
  rw [waitingMarks_append, waitingMarks_append, List.append_assoc, number]
  congr 1
  simp [waitingMarks, Lane.push]

theorem opened_new (placed : Placed now own lanes) (s : σ)
    (allClosed : ∀ lane ∈ own, lane.isOpen = false) (event : Event) :
    ∃ lanes', Placed now (own ++ [⟨s, true, true, none, [event]⟩]) lanes' ∧
      waitingMarks lanes' = waitingMarks lanes ++ [(now, event)] := by
  have past : ∀ entry ∈ lanes, entry.1 < now := by
    intro entry member
    have mine : entry.2 ∈ own := placed.lanes_eq ▸ List.mem_map_of_mem member
    exact placed.closed entry member (allClosed entry.2 mine)
  refine ⟨lanes ++ [(now, ⟨s, true, true, none, [event]⟩)], ⟨?_, ?_, ?_, ?_⟩, ?_⟩
  · rw [List.map_append, placed.lanes_eq]
    rfl
  · rw [List.map_append, List.nodup_append]
    refine ⟨placed.distinct, List.pairwise_singleton _ _, ?_⟩
    intro k old k' new same
    obtain ⟨entry, member, rfl⟩ := List.mem_map.mp old
    have before := past entry member
    rw [same, List.mem_singleton.mp new] at before
    exact Nat.lt_irrefl _ before
  · intro entry member notOpen
    rcases List.mem_append.mp member with old | new
    · exact past entry old
    · rw [List.mem_singleton.mp new] at notOpen
      cases notOpen
  · intro entry member isOpen
    rcases List.mem_append.mp member with old | new
    · exact placed.opened entry old isOpen
    · rw [List.mem_singleton.mp new]
  · rw [waitingMarks_append]
    rfl

theorem waitingMarks_filter_isKept (lanes : List (Nat × Lane σ)) :
    waitingMarks (lanes.filter fun entry => entry.2.isKept) = waitingMarks lanes := by
  induction lanes with
  | nil => rfl
  | cons entry lanes ih =>
    have split : waitingMarks (entry :: lanes) = waitingMarks [entry] ++ waitingMarks lanes :=
      waitingMarks_append [entry] lanes
    cases kept : entry.2.isKept with
    | true =>
      have first : (entry :: lanes).filter (fun entry => entry.2.isKept) =
          entry :: lanes.filter fun entry => entry.2.isKept := List.filter_cons_of_pos kept
      rw [first, split, ← ih]
      exact waitingMarks_append [entry] _
    | false =>
      have nothing : waitingMarks [entry] = [] := by
        simp [waitingMarks, (Lane.idle_of_not_kept kept).2]
      have first : (entry :: lanes).filter (fun entry => entry.2.isKept) =
          lanes.filter fun entry => entry.2.isKept := List.filter_cons_of_neg (by simp [kept])
      rw [first, ih, split, nothing]
      rfl

theorem tidied (placed : Placed now own lanes) :
    Placed now (own.filter (·.isKept)) (lanes.filter fun entry => entry.2.isKept) where
  lanes_eq := by
    rw [← placed.lanes_eq, List.filter_map]
    rfl
  distinct := placed.distinct.sublist (List.filter_sublist.map Prod.fst)
  closed entry member := placed.closed entry (List.mem_filter.mp member).1
  opened entry member := placed.opened entry (List.mem_filter.mp member).1

theorem shut (placed : Placed now own lanes) :
    ∃ lanes', Placed (now + 1) ((own.map Lane.shut).filter (·.isKept)) lanes' ∧
      waitingMarks lanes' = waitingMarks lanes := by
  let close (entry : Nat × Lane σ) : Nat × Lane σ := (entry.1, entry.2.shut)
  have closing : Placed (now + 1) (own.map Lane.shut) (lanes.map close) := by
    refine ⟨?_, ?_, ?_, ?_⟩
    · rw [← placed.lanes_eq, List.map_map, List.map_map]
      rfl
    · have same : (lanes.map close).map Prod.fst = lanes.map Prod.fst := List.map_map
      exact same ▸ placed.distinct
    · intro entry member _
      obtain ⟨old, listed, rfl⟩ := List.mem_map.mp member
      cases isOpen : old.2.isOpen with
      | false => exact Nat.lt_succ_of_lt (placed.closed old listed isOpen)
      | true => exact Nat.lt_succ_of_le (Nat.le_of_eq (placed.opened old listed isOpen))
    · intro entry member isOpen
      obtain ⟨old, _, rfl⟩ := List.mem_map.mp member
      cases isOpen
  refine ⟨_, closing.tidied, ?_⟩
  rw [waitingMarks_filter_isKept]
  exact List.flatMap_map ..

theorem taken {event : Event} {queue : List Event}
    (placed : Placed now (front ++ lane :: back) lanes) (waits : lane.queue = event :: queue) :
    ∃ k lanes' early late,
      Placed now (front ++ { lane with current := some event, queue } :: back) lanes' ∧
      waitingMarks lanes = early ++ (k, event) :: late ∧ k ∉ early.map Prod.fst ∧
      waitingMarks lanes' = early ++ late := by
  obtain ⟨k, early, late, rfl, rfl, rfl⟩ := placed.split
  have same : ({ lane with current := some event, queue } : Lane σ).isOpen = lane.isOpen := rfl
  have other : k ∉ early.map Prod.fst := by
    intro twice
    have distinct := placed.distinct
    rw [List.map_append, List.map_cons] at distinct
    exact (List.nodup_append.mp distinct).2.2 k twice k List.mem_cons_self rfl
  refine ⟨k, _, waitingMarks early, queue.map (fun event => (k, event)) ++ waitingMarks late,
    placed.changed same, ?_, map_fst_waitingMarks other, ?_⟩
  · rw [waitingMarks_append]
    simp [waitingMarks, waits]
  · rw [waitingMarks_append]
    simp [waitingMarks]

theorem done (placed : Placed now (front ++ lane :: back) lanes) :
    ∃ lanes', Placed now ((front ++ lane.done :: back).filter (·.isKept)) lanes' ∧
      waitingMarks lanes' = waitingMarks lanes := by
  obtain ⟨k, early, late, rfl, rfl, rfl⟩ := placed.split
  have same : lane.done.isOpen = lane.isOpen := rfl
  refine ⟨_, (placed.changed same).tidied, ?_⟩
  rw [waitingMarks_filter_isKept, waitingMarks_append, waitingMarks_append]
  rfl

end Placed

/-- What a listener was handed and what waits in its lanes is marked so that each spell is picked by
its number. -/
def Marked (history : List Happening) (own : List (Lane σ)) : Prop :=
  ∃ (handed : List (Nat × Event)) (lanes : List (Nat × Lane σ)),
    handed.map Prod.snd = Happening.handedIn history ∧
    Placed (Spells.ofHistory history).past.length own lanes ∧
    ∀ k, picked (handed ++ waitingMarks lanes) k = (Spells.ofHistory history).rows.getD k []

namespace Marked

variable {history : List Happening} {own own' : List (Lane σ)}

theorem empty : Marked [] ([] : List (Lane σ)) := by
  refine ⟨[], [], rfl, ⟨rfl, List.nodup_nil, ?_, ?_⟩, ?_⟩
  · exact List.forall_mem_nil _
  · exact List.forall_mem_nil _
  · intro k
    cases k <;> rfl

theorem weaves (marked : Marked history own) :
    Weaves (Spells.ofHistory history).rows
      (Happening.handedIn history ++ Lane.waiting own) := by
  obtain ⟨handed, lanes, handedEq, placed, rows⟩ := marked
  have woven := Weaves.of_marks rows
  rw [List.map_append, handedEq, map_snd_waitingMarks, placed.lanes_eq] at woven
  exact woven

theorem quiet (happening : Happening) (silent : happening.handed? = none)
    {handed : List (Nat × Event)} {lanes' : List (Nat × Lane σ)}
    (handedEq : handed.map Prod.snd = Happening.handedIn history)
    (placed : Placed ((Spells.ofHistory history).follow happening).past.length own' lanes')
    (rows : ∀ k, picked (handed ++ waitingMarks lanes') k =
      ((Spells.ofHistory history).follow happening).rows.getD k []) :
    Marked (history ++ [happening]) own' := by
  rw [← Spells.ofHistory_concat] at placed rows
  refine ⟨handed, lanes', ?_, placed, rows⟩
  have nothing : Happening.handedIn [happening] = [] := List.filterMap_cons_none silent
  rw [Happening.handedIn_append, handedEq, nothing, List.append_nil]

/-- Whatever happens to a listener, the marks can follow. -/
theorem follow {s : σ} {happening : Option Happening} (marked : Marked history own)
    (shifts : Lane.Shifts s happening own own') :
    Marked (history ++ happening.toList) own' := by
  obtain ⟨handed, lanes, handedEq, placed, rows⟩ := marked
  have queued {lanes' : List (Nat × Lane σ)} {event : Event} (waiting : waitingMarks lanes' =
      waitingMarks lanes ++ [((Spells.ofHistory history).past.length, event)]) (k : Nat) :
      picked (handed ++ waitingMarks lanes') k =
        ((Spells.ofHistory history).follow (.queued event)).rows.getD k [] := by
    rw [Spells.getD_queued, waiting, ← List.append_assoc, picked_append, rows, picked_cons]
    exact congrArg _ (List.append_nil _)
  cases shifts with
  | kept =>
    rw [Option.toList_none, List.append_nil]
    exact ⟨handed, lanes, handedEq, placed, rows⟩
  | @pushed front lane event isOpen =>
    obtain ⟨lanes', placed', waiting⟩ := placed.pushed isOpen event
    exact .quiet (.queued event) rfl handedEq placed' (queued waiting)
  | @opened _ event closed =>
    obtain ⟨lanes', placed', waiting⟩ := placed.opened_new s closed event
    exact .quiet (.queued event) rfl handedEq placed' (queued waiting)
  | shut =>
    obtain ⟨lanes', placed', waiting⟩ := placed.shut
    have past : ((Spells.ofHistory history).follow .closed).past.length =
        (Spells.ofHistory history).past.length + 1 := List.length_append
    rw [← past] at placed'
    refine .quiet .closed rfl handedEq placed' ?_
    intro k
    rw [Spells.getD_closed, waiting, rows]
  | @taken front back lane event queue idle waits =>
    obtain ⟨k, lanes', early, late, placed', before, other, after⟩ := placed.taken waits
    refine ⟨handed ++ [(k, event)], lanes', ?_, ?_, ?_⟩
    · rw [List.map_append, handedEq]
      exact (Happening.handedIn_append history [.handed event]).symm
    · rw [Option.toList_some, Spells.ofHistory_concat]
      exact placed'
    · -- what overtakes belongs to other spells
      intro j
      have same : picked ((handed ++ [(k, event)]) ++ (early ++ late)) j =
          picked (handed ++ (early ++ (k, event) :: late)) j := by
        have none : picked ([] : List (Nat × Event)) j = [] := rfl
        simp only [picked_append, picked_cons, none]
        by_cases own : k = j
        · subst own
          simp [picked_of_absent other]
        · simp [own]
      rw [after, same, ← before, rows, Option.toList_some, Spells.ofHistory_concat]
      rfl
  | @done front back lane event panicked current =>
    obtain ⟨lanes', placed', waiting⟩ := placed.done
    refine .quiet (.ended event panicked) rfl handedEq placed' ?_
    intro k
    rw [waiting, rows]
    rfl

end Marked

namespace Lanes

variable [DecidableEq σ]

theorem run_marked {l : Lanes σ} (tidy : l.Tidy) {s : σ} {history : List Happening}
    (marked : Marked history (l.lanesOf s)) (steps : List (Step σ)) :
    Marked (history ++ l.history s steps) ((l.run steps).lanesOf s) := by
  induction steps generalizing l history with
  | nil =>
    change Marked (history ++ []) (l.lanesOf s)
    rw [List.append_nil]
    exact marked
  | cons step steps ih =>
    have rest := ih (step_tidy tidy step) (marked.follow (step_shifts tidy s step))
    rw [List.append_assoc] at rest
    exact rest

end Lanes

end MeterHub
