import MeterHub.Proofs.Lanes.Spells

/-!
Nothing is lost on the way to a listener, and nothing is handed over twice, whatever the lanes, the
callbacks and the other listeners do. The counters tell exactly which callbacks have ended.
-/

set_option autoImplicit false
set_option relaxedAutoImplicit false

namespace MeterHub.Lanes

variable {σ : Type} [DecidableEq σ]

omit [DecidableEq σ] in
theorem shifts_callbacks {s : σ} {happening : Option Happening} {own own' : List (Lane σ)}
    (shifts : Lane.Shifts s happening own own') :
    (Happening.endedIn happening.toList ++ Lane.underWay own').Perm
      (Lane.underWay own ++ Happening.handedIn happening.toList) := by
  have nothing : Lane.underWay own ++ [] = Lane.underWay own := List.append_nil _
  cases shifts with
  | kept => exact .of_eq nothing.symm
  | @pushed front lane event isOpen =>
    refine .of_eq (Eq.trans ?_ nothing.symm)
    change Lane.underWay (front ++ [lane.push event]) = _
    rw [Lane.underWay_append, Lane.underWay_append]
    rfl
  | @opened _ event closed =>
    refine .of_eq ?_
    change Lane.underWay (own ++ [_]) = _
    rw [Lane.underWay_append]
    rfl
  | shut =>
    refine .of_eq (Eq.trans ?_ nothing.symm)
    change Lane.underWay ((own.map Lane.shut).filter (·.isKept)) = _
    rw [(Lane.filter_isKept _).2]
    exact List.flatMap_map ..
  | @taken front back lane event queue idle waits =>
    change (Lane.underWay (front ++ _ :: back)).Perm
      (Lane.underWay (front ++ lane :: back) ++ [event])
    simp only [Lane.underWay_append, Lane.underWay_cons, idle, Option.toList_some,
      Option.toList_none, List.nil_append, List.singleton_append]
    exact List.perm_middle.trans (List.perm_append_singleton _ _).symm
  | @done front back lane event panicked current =>
    refine List.Perm.trans ?_ (.of_eq nothing.symm)
    change (event :: Lane.underWay ((front ++ lane.done :: back).filter (·.isKept))).Perm _
    rw [(Lane.filter_isKept _).2]
    simp only [Lane.underWay_append, Lane.underWay_cons, current, Lane.done, Option.toList_some,
      Option.toList_none, List.nil_append, List.singleton_append]
    exact List.perm_middle.symm

theorem run_callbacks {l : Lanes σ} (tidy : l.Tidy) (s : σ) (steps : List (Step σ)) :
    (Happening.endedIn (l.history s steps) ++ (l.run steps).underWayFor s).Perm
      (l.underWayFor s ++ Happening.handedIn (l.history s steps)) := by
  induction steps generalizing l with
  | nil => exact .of_eq (List.append_nil _).symm
  | cons step steps ih =>
    have first := shifts_callbacks (step_shifts tidy s step)
    have rest := ih (step_tidy tidy step)
    change (Happening.endedIn ((l.happens s step).toList ++ (l.step step).history s steps) ++
      ((l.step step).run steps).underWayFor s).Perm (l.underWayFor s ++
        Happening.handedIn ((l.happens s step).toList ++ (l.step step).history s steps))
    rw [Happening.endedIn_append, Happening.handedIn_append, List.append_assoc,
      ← List.append_assoc (l.underWayFor s)]
    have later := rest.append_left (Happening.endedIn (l.happens s step).toList)
    rw [← List.append_assoc (Happening.endedIn _) ((l.step step).underWayFor s)] at later
    exact later.trans (first.append_right _)

theorem endedIn_happens (l : Lanes σ) (s : σ) (step : Step σ) :
    Happening.endedIn (l.happens s step).toList =
      ((l.ending? step).toList.filter (·.listener = s)).map (·.event) := by
  cases step with
  | deliver listener event =>
    change Happening.endedIn (if listener = s then some (.queued event) else none).toList = []
    split <;> rfl
  | close listener =>
    change Happening.endedIn (if listener = s then some .closed else none).toList = []
    split <;> rfl
  | closeAll => rfl
  | take index =>
    cases happening : l.happens s (.take index) with
    | none => rfl
    | some mine =>
      obtain ⟨event, rfl⟩ := happens_take_handed happening
      rfl
  | finish index panicked =>
    simp only [happens, ending?]
    cases l.underWay? index with
    | none => rfl
    | some underWay =>
      obtain ⟨listener, event⟩ := underWay
      by_cases own : listener = s
      · simp only [Option.bind_some, Option.map_some, own, Option.toList_some]
        simp [Happening.endedIn, Happening.ended?]
      · simp [own, Happening.endedIn]

theorem endedIn_history (l : Lanes σ) (s : σ) (steps : List (Step σ)) :
    Happening.endedIn (l.history s steps) =
      ((l.endings steps).filter (·.listener = s)).map (·.event) := by
  induction steps generalizing l with
  | nil => rfl
  | cons step steps ih =>
    change Happening.endedIn ((l.happens s step).toList ++ (l.step step).history s steps) =
      (((l.ending? step).toList ++ (l.step step).endings steps).filter _).map _
    rw [Happening.endedIn_append, ih, endedIn_happens, List.filter_append, List.map_append]

/-- The counters tell how many callbacks have ended, of which kind, and how many of them panicked.
-/
structure Tallied (counters : Counters) (endings : List (Ending σ)) : Prop where
  frames : counters.frames = (endings.filter (·.event.isFrame)).length
  faults : counters.faults = (endings.filter (!·.event.isFrame)).length
  panics : counters.panics = (endings.filter (·.panicked)).length
  dropped : counters.dropped = 0

theorem step_counters {l : Lanes σ} (sound : l.Sound) (step : Step σ) :
    (l.step step).counters =
      (l.ending? step).elim l.counters fun ending =>
        l.counters.finish ending.event ending.panicked := by
  cases step with
  | deliver listener event =>
    change (l.deliver listener event).counters = l.counters
    rcases deliver_cases sound listener event with ⟨_, delivered⟩ | ⟨_, delivered⟩
    · rw [delivered]
    · rw [delivered]
  | close listener => rfl
  | closeAll => rfl
  | take index => rfl
  | finish index panicked =>
    change (l.finish index panicked).counters = _
    cases found : l.lanes[index]? with
    | none => simp [Lanes.finish, ending?, underWay?, found]
    | some lane =>
      cases current : lane.current <;>
        simp [Lanes.finish, ending?, underWay?, found, current]

omit [DecidableEq σ] in
theorem Tallied.finish {counters : Counters} {endings : List (Ending σ)}
    (tallied : Tallied counters endings) (ending : Ending σ) :
    Tallied (counters.finish ending.event ending.panicked) (endings ++ [ending]) := by
  obtain ⟨frames, faults, panics, dropped⟩ := tallied
  refine ⟨?_, ?_, ?_, dropped⟩
  · rw [List.filter_append, List.length_append, ← frames]
    unfold Counters.finish
    cases frame : ending.event.isFrame <;> simp [frame]
  · rw [List.filter_append, List.length_append, ← faults]
    unfold Counters.finish
    cases frame : ending.event.isFrame <;> simp [frame]
  · rw [List.filter_append, List.length_append, ← panics]
    unfold Counters.finish
    cases panic : ending.panicked <;> simp [panic]

theorem run_tallied {l : Lanes σ} (tidy : l.Tidy) {endings : List (Ending σ)}
    (tallied : Tallied l.counters endings) (steps : List (Step σ)) :
    Tallied (l.run steps).counters (endings ++ l.endings steps) := by
  induction steps generalizing l endings with
  | nil =>
    change Tallied l.counters (endings ++ [])
    rw [List.append_nil]
    exact tallied
  | cons step steps ih =>
    have counters := step_counters tidy.toSound step
    have next : Tallied (l.step step).counters (endings ++ (l.ending? step).toList) := by
      rw [counters]
      cases l.ending? step with
      | none =>
        rw [Option.toList_none, List.append_nil]
        exact tallied
      | some ending => exact tallied.finish ending
    have rest := ih (step_tidy tidy step) next
    rw [List.append_assoc] at rest
    exact rest

omit [DecidableEq σ] in
theorem shifts_waiting_perm {s : σ} {happening : Option Happening} {own own' : List (Lane σ)}
    (shifts : Lane.Shifts s happening own own') :
    (Happening.handedIn happening.toList ++ Lane.waiting own').Perm
      (Lane.waiting own ++ Happening.queuedIn happening.toList) := by
  have in_order := shifts_waiting shifts
  cases shifts with
  | @taken front back lane event queue idle waits =>
    rw [Lane.waiting_append, Lane.waiting_append, Lane.waiting_cons, Lane.waiting_cons, waits]
    change ([event] ++ (Lane.waiting front ++ (queue ++ Lane.waiting back))).Perm
      (Lane.waiting front ++ ([event] ++ (queue ++ Lane.waiting back)) ++ [])
    rw [List.append_nil]
    exact List.perm_append_comm_assoc _ _ _
  | _ => exact .of_eq (in_order rfl)

/-- The work that the lanes of a listener have left: each event that waits is to be taken up, and
each callback is to be finished. -/
def workFor (l : Lanes σ) (s : σ) : Nat :=
  2 * (l.waitingFor s).length + (l.underWayFor s).length

omit [DecidableEq σ] in
theorem shifts_work {s : σ} {happening : Happening} (work : happening.isWork = true)
    {own own' : List (Lane σ)} (shifts : Lane.Shifts s (some happening) own own') :
    2 * (Lane.waiting own').length + (Lane.underWay own').length + 1 =
      2 * (Lane.waiting own).length + (Lane.underWay own).length := by
  cases shifts with
  | pushed isOpen => cases work
  | opened closed => cases work
  | shut => cases work
  | @taken front back lane event queue idle waits =>
    simp only [Lane.waiting_append, Lane.waiting_cons, Lane.underWay_append, Lane.underWay_cons,
      idle, waits, List.length_append, List.length_cons, Option.toList_some, Option.toList_none,
      List.length_nil]
    omega
  | @done front back lane event panicked current =>
    rw [(Lane.filter_isKept _).1, (Lane.filter_isKept _).2]
    simp only [Lane.waiting_append, Lane.waiting_cons, Lane.underWay_append, Lane.underWay_cons,
      current, Lane.done, List.length_append, Option.toList_some, Option.toList_none,
      List.length_cons, List.length_nil]
    omega

theorem can_work {l : Lanes σ} {s : σ} (waits : l.waitingFor s ≠ []) :
    ∃ step happening, l.happens s step = some happening ∧ happening.isWork = true ∧
      ∀ t, t ≠ s → l.happens t step = none := by
  obtain ⟨lane, member, full⟩ : ∃ lane ∈ l.lanesOf s, lane.queue ≠ [] := by
    by_contra nobody
    apply waits
    apply List.flatMap_eq_nil_iff.mpr
    intro lane member
    by_contra full
    exact nobody ⟨lane, member, full⟩
  obtain ⟨listed, listener⟩ := Lane.mem_own.mp member
  obtain ⟨index, found⟩ := List.mem_iff_getElem?.mp listed
  have other {t : σ} (apart : t ≠ s) : lane.listener ≠ t := fun same =>
    apart (same.symm.trans listener)
  cases current : lane.current with
  | none =>
    obtain ⟨event, queue, queued⟩ := List.exists_cons_of_ne_nil full
    have next : lane.next? = some event := by simp [Lane.next?, current, queued]
    refine ⟨.take index, .handed event, ?_, rfl, ?_⟩
    · rw [happens_take found, next, Option.bind_some, if_pos listener]
    · intro t apart
      rw [happens_take found, next, Option.bind_some, if_neg (other apart)]
  | some event =>
    refine ⟨.finish index false, .ended event false, ?_, rfl, ?_⟩
    · rw [happens_finish found, current, Option.bind_some, if_pos listener]
    · intro t apart
      rw [happens_finish found, current, Option.bind_some, if_neg (other apart)]

/-- The lanes of a listener can hand over all that waits while nothing happens to anyone else. -/
theorem can_drain {l : Lanes σ} (tidy : l.Tidy) (s : σ) :
    ∃ steps, (l.run steps).waitingFor s = [] ∧
      (∀ happening ∈ l.history s steps, happening.isWork = true) ∧
      ∀ t, t ≠ s → l.history t steps = [] := by
  generalize work : l.workFor s = left
  induction left generalizing l with
  | zero =>
    refine ⟨[], ?_, List.forall_mem_nil _, fun _ _ => rfl⟩
    apply List.length_eq_zero_iff.mp
    change (l.waitingFor s).length = 0
    unfold workFor at work
    omega
  | succ left ih =>
    by_cases waits : l.waitingFor s = []
    · exact ⟨[], waits, List.forall_mem_nil _, fun _ _ => rfl⟩
    · obtain ⟨step, happening, happens, works, apart⟩ := can_work waits
      have shifts := step_shifts tidy s step
      rw [happens] at shifts
      have less : (l.step step).workFor s = left := by
        have fewer := shifts_work works shifts
        unfold workFor waitingFor underWayFor at work ⊢
        omega
      obtain ⟨steps, drained, own, others⟩ := ih (step_tidy tidy step) less
      refine ⟨step :: steps, drained, ?_, ?_⟩
      · intro other member
        rcases List.mem_append.mp member with first | later
        · rw [happens] at first
          rw [List.mem_singleton.mp first]
          exact works
        · exact own other later
      · intro t different
        change (l.happens t step).toList ++ (l.step step).history t steps = []
        rw [apart t different, others t different]
        rfl

/-- What is queued for a listener is what it has been handed and what still waits for it, each spell
in its order. Once nothing waits, exactly that has been handed over; and the callbacks that have
ended or are under way are those that it was handed. -/
structure Conserved (l : Lanes σ) (s : σ) (history : List Happening) : Prop where
  woven : Weaves (Spells.ofHistory history).rows
    (Happening.handedIn history ++ l.waitingFor s)
  exact_once : l.waitingFor s = [] →
    (Happening.handedIn history).Perm (Happening.queuedIn history)
  in_order : l.waitingFor s = [] → ∀ spell ∈ (Spells.ofHistory history).rows,
    spell.Sublist (Happening.handedIn history)
  callbacks : (Happening.endedIn history ++ l.underWayFor s).Perm (Happening.handedIn history)

theorem Marked.conserved {l : Lanes σ} {s : σ} {history : List Happening}
    (marked : Marked history (l.lanesOf s))
    (callbacks : (Happening.endedIn history ++ l.underWayFor s).Perm (Happening.handedIn history)) :
    Conserved l s history := by
  have drained (nothing : l.waitingFor s = []) :
      Weaves (Spells.ofHistory history).rows (Happening.handedIn history) := by
    have woven := marked.weaves
    change Weaves _ (_ ++ l.waitingFor s) at woven
    rw [nothing, List.append_nil] at woven
    exact woven
  refine ⟨marked.weaves, ?_, fun nothing => (drained nothing).sublist, callbacks⟩
  intro nothing
  rw [← Spells.flatten_rows]
  exact (drained nothing).perm

/-- In every run nothing is lost on the way to a listener and nothing is handed over twice, the
counters tell exactly which callbacks of all listeners have ended, and the lanes of each listener
can hand over what waits for it without anyone else. -/
theorem run_conserved (steps : List (Step σ)) :
    let l := ({} : Lanes σ).run steps
    let endings := ({} : Lanes σ).endings steps
    (∀ s, Conserved l s (({} : Lanes σ).history s steps)) ∧
      (l.stats.framesDelivered = (endings.filter (·.event.isFrame)).length ∧
        l.stats.faultsDelivered = (endings.filter (!·.event.isFrame)).length ∧
        l.stats.listenerPanics = (endings.filter (·.panicked)).length ∧ l.stats.dropped = 0) ∧
      (∀ s, Happening.endedIn (({} : Lanes σ).history s steps) =
        (endings.filter (·.listener = s)).map (·.event)) ∧
      ∀ s, ∃ more, (l.run more).waitingFor s = [] ∧
        (∀ happening ∈ l.history s more, happening.isWork = true) ∧
        ∀ t, t ≠ s → l.history t more = [] := by
  intro l endings
  have start : Tallied ({} : Lanes σ).counters ([] : List (Ending σ)) := ⟨rfl, rfl, rfl, rfl⟩
  obtain ⟨frames, faults, panics, dropped⟩ := run_tallied empty_tidy start steps
  refine ⟨?_, ⟨frames, faults, panics, dropped⟩, fun s => endedIn_history _ s steps,
    fun s => can_drain (run_tidy steps) s⟩
  intro s
  exact Marked.conserved (run_marked empty_tidy .empty steps) (run_callbacks empty_tidy s steps)

/-- A listener whose callbacks all panic gets what was queued before and after a close, while the
callback of another listener stays blocked. -/
theorem run_conserved_blocked :
    let first : Event := .fault (.unplugged (.ofPort none "a"))
    let second : Event := .fault (.unplugged (.ofPort none "b"))
    let steps : List (Step String) := [.deliver "y" first, .deliver "x" first, .take 0, .close "x",
      .deliver "x" second, .take 1, .finish 1 true, .take 1, .finish 1 true]
    let l := ({} : Lanes String).run steps
    l.underWayFor "y" = [first] ∧
      (Happening.handedIn (({} : Lanes String).history "x" steps)).Perm [first, second] ∧
      l.stats.faultsDelivered = 2 ∧ l.stats.listenerPanics = 2 := by
  intro first second steps l
  obtain ⟨conserved, ⟨_, faults, panics, _⟩, _, _⟩ := run_conserved steps
  have drained : l.waitingFor "x" = [] := by decide
  have queued : Happening.queuedIn (({} : Lanes String).history "x" steps) = [first, second] := by
    decide
  have handed := (conserved "x").exact_once drained
  rw [queued] at handed
  refine ⟨by decide, handed, ?_, ?_⟩
  · rw [faults]
    decide
  · rw [panics]
    decide

end MeterHub.Lanes
