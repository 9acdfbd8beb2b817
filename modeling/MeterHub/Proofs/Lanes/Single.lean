import MeterHub.Proofs.Lanes.Turns

/-!
A listener with one lane. Where a lane is closed only for listeners that are told nothing more,
nobody has two lanes, and what such a listener is told comes to it in the order of submission.
-/

set_option autoImplicit false
set_option relaxedAutoImplicit false

namespace MeterHub

variable {σ : Type} [DecidableEq σ]

namespace Lane

/-- There is one lane at most, which is open as long as its listener is told events. -/
structure Single (told : Prop) (own : List (Lane σ)) : Prop where
  one : own.length ≤ 1
  isOpen : told → ∀ lane ∈ own, lane.isOpen = true

omit [DecidableEq σ] in
theorem Single.imp {told told' : Prop} {own : List (Lane σ)} (single : Single told own)
    (still : told' → told) : Single told' own := ⟨single.one, fun now => single.isOpen (still now)⟩

omit [DecidableEq σ] in
theorem Single.change {told : Prop} {front back : List (Lane σ)} {lane changed : Lane σ}
    (single : Single told (front ++ lane :: back)) (same : changed.isOpen = lane.isOpen) :
    Single told (front ++ changed :: back) := by
  refine ⟨?_, ?_⟩
  · have one := single.one
    simp only [List.length_append, List.length_cons] at one ⊢
    exact one
  · intro still other member
    have opened := single.isOpen still
    rcases List.mem_append.mp member with before | after
    · exact opened other (List.mem_append_left _ before)
    · rcases List.mem_cons.mp after with rfl | behind
      · exact same.trans (opened lane (List.mem_append_right _ List.mem_cons_self))
      · exact opened other (List.mem_append_right _ (List.mem_cons_of_mem _ behind))

omit [DecidableEq σ] in
theorem Single.filter {told : Prop} {own : List (Lane σ)} (single : Single told own)
    (keep : Lane σ → Bool) : Single told (own.filter keep) :=
  ⟨Nat.le_trans (List.length_filter_le keep own) single.one,
    fun still lane member => single.isOpen still lane (List.mem_filter.mp member).1⟩

omit [DecidableEq σ] in
theorem Shifts.single {s : σ} {happening : Option Happening} {own own' : List (Lane σ)}
    (shifts : Shifts s happening own own') {told : Prop}
    (queued : ∀ event, happening = some (.queued event) → told)
    (closed : happening = some .closed → ¬told) (single : Single told own) : Single told own' := by
  cases shifts with
  | kept => exact single
  | pushed isOpen => exact single.change rfl
  | opened shut =>
    have empty : own = [] := by
      apply List.eq_nil_iff_forall_not_mem.mpr
      intro lane member
      have isOpen := single.isOpen (queued _ rfl) lane member
      rw [shut lane member] at isOpen
      cases isOpen
    rw [empty]
    refine ⟨Nat.le_refl 1, ?_⟩
    intro _ lane member
    rw [List.mem_singleton.mp member]
  | shut =>
    refine ⟨?_, fun still => (closed rfl still).elim⟩
    have fewer := List.length_filter_le Lane.isKept (own.map Lane.shut)
    rw [List.length_map] at fewer
    exact Nat.le_trans fewer single.one
  | taken idle waits => exact single.change rfl
  | @done front back lane event panicked current =>
    have ended : Single told (front ++ lane.done :: back) := single.change rfl
    exact ended.filter _

omit [DecidableEq σ] in
theorem Shifts.single_of_work {s : σ} {happening : Option Happening} {own own' : List (Lane σ)}
    (shifts : Shifts s happening own own')
    (work : ∀ mine, happening = some mine → mine.isWork = true) {told : Prop}
    (single : Single told own) : Single told own' := by
  refine shifts.single ?_ ?_ single
  · intro event queued
    cases work _ queued
  · intro closed
    cases work _ closed

end Lane

namespace Lanes

theorem isInTurn_of_single {l : Lanes σ} {s : σ} (one : (l.lanesOf s).length ≤ 1) (step : Step σ) :
    l.isInTurn s step = true := by
  cases step with
  | take index =>
    cases next : l.next? index with
    | none => simp [isInTurn, next]
    | some handed =>
      obtain ⟨listener, event⟩ := handed
      by_cases own : listener = s
      · subst own
        obtain ⟨lane, found, mine, _⟩ := next?_eq_some next
        rw [lanesOf_around found, if_pos mine] at one
        simp only [List.length_append, List.length_singleton] at one
        have older : Lane.own (l.lanes.take index) listener = [] :=
          List.eq_nil_of_length_eq_zero (by omega)
        rw [isInTurn_take_iff next, older]
        rfl
      · simp [isInTurn, next, own]
  | _ => rfl

theorem shut_of_absent {l : Lanes σ} {s : σ} (closed : s ∉ l.openListeners) {lane : Lane σ}
    (listed : lane ∈ l.lanes) (own : lane.listener = s) : lane.isOpen = false := by
  rw [← Bool.not_eq_true]
  intro isOpen
  exact closed (mem_openListeners.mpr ⟨lane, listed, Lane.serves_iff.mpr ⟨isOpen, own⟩⟩)

theorem Tidy.lanesOf_eq_nil {l : Lanes σ} (tidy : l.Tidy) {s : σ} (closed : s ∉ l.openListeners)
    (empty : l.heldFor s = []) : l.lanesOf s = [] := by
  apply List.eq_nil_iff_forall_not_mem.mpr
  intro lane member
  obtain ⟨listed, own⟩ := Lane.mem_own.mp member
  have held : lane.held = [] := by
    have none := List.flatMap_eq_nil_iff.mp empty lane listed
    rwa [if_pos own] at none
  have shut := shut_of_absent closed listed own
  have kept := tidy.kept lane listed
  simp [Lane.held] at held
  simp [Lane.isKept, Lane.isIdle, shut, held] at kept

theorem Tidy.close_eq_self {l : Lanes σ} (tidy : l.Tidy) {s : σ} (closed : s ∉ l.openListeners) :
    l.close s = l := by
  have shut : ∀ lane ∈ l.lanes, (if lane.listener = s then lane.shut else lane) = lane := by
    intro lane listed
    split
    · rename_i own
      unfold Lane.shut
      rw [← shut_of_absent closed listed own]
    · rfl
  unfold close
  rw [List.map_congr_left shut, List.map_id', List.filter_eq_self.mpr tidy.kept]

theorem Tidy.close_close {l : Lanes σ} (tidy : l.Tidy) (s : σ) :
    (l.close s).close s = l.close s := by
  have still : (l.close s).Tidy := step_tidy tidy (.close s)
  exact still.close_eq_self fun isOpen => (mem_openListeners_close.mp isOpen).2 rfl

theorem heldFor_step {l : Lanes σ} (sound : l.Sound) (s : σ) {step : Step σ}
    (unfinished : ∀ index panicked, step ≠ .finish index panicked) :
    (l.step step).heldFor s = l.heldFor s ++ Happening.queuedIn (l.happens s step).toList := by
  have silent {happening : Option Happening} (nothing : Happening.queuedIn happening.toList = []) :
      l.heldFor s = l.heldFor s ++ Happening.queuedIn happening.toList := by
    rw [nothing, List.append_nil]
  cases step with
  | deliver t event =>
    refine (heldFor_deliver sound t event s).trans ?_
    change _ = l.heldFor s ++
      Happening.queuedIn (if t = s then some (.queued event) else none).toList
    by_cases own : t = s
    · rw [if_pos own, if_pos own.symm]
      rfl
    · rw [if_neg own, if_neg (Ne.symm own)]
      rfl
  | close t =>
    refine (l.heldFor_close t s).trans (silent ?_)
    change Happening.queuedIn (if t = s then some .closed else none).toList = []
    split <;> rfl
  | closeAll => exact (l.heldFor_closeAll s).trans (silent rfl)
  | take index =>
    refine (l.heldFor_take index s).trans (silent ?_)
    cases happening : l.happens s (.take index) with
    | none => rfl
    | some happening' =>
      obtain ⟨event, rfl⟩ := happens_take_handed happening
      rfl
  | finish index panicked => exact (unfinished index panicked rfl).elim

end Lanes

end MeterHub
