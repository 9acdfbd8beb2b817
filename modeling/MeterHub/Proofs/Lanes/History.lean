import MeterHub.Lanes.Step
import MeterHub.Proofs.Lanes.Holding

/-!
The history of a listener: what is queued for it, when its lane is closed, what it is handed and how
its callbacks end. A step that is nothing to a listener leaves the lanes of that listener as they
are, and each kind of happening changes them in one way.
-/

set_option autoImplicit false
set_option relaxedAutoImplicit false

namespace MeterHub

variable {σ : Type}

/-- What happens to a listener: an event is queued for it, its lane is closed, an event is handed to
it, or its callback for an event ends. -/
inductive Happening
  | queued (event : Event)
  | closed
  | handed (event : Event)
  | ended (event : Event) (panicked : Bool)
deriving DecidableEq

namespace Happening

def queued? : Happening → Option Event
  | .queued event => some event
  | _ => none

def handed? : Happening → Option Event
  | .handed event => some event
  | _ => none

def ended? : Happening → Option Event
  | .ended event _ => some event
  | _ => none

/-- Whether a happening is the work of a lane. -/
def isWork : Happening → Bool
  | .handed _ | .ended _ _ => true
  | _ => false

/-- The events that a history queues. -/
def queuedIn (history : List Happening) : List Event := history.filterMap queued?

/-- The events that a history hands over. -/
def handedIn (history : List Happening) : List Event := history.filterMap handed?

/-- The events whose callbacks come to an end in a history. -/
def endedIn (history : List Happening) : List Event := history.filterMap ended?

theorem queuedIn_append (history more : List Happening) :
    queuedIn (history ++ more) = queuedIn history ++ queuedIn more := List.filterMap_append

theorem handedIn_append (history more : List Happening) :
    handedIn (history ++ more) = handedIn history ++ handedIn more := List.filterMap_append

theorem endedIn_append (history more : List Happening) :
    endedIn (history ++ more) = endedIn history ++ endedIn more := List.filterMap_append

end Happening

namespace Lane

theorem take_cases (lane : Lane σ) :
    (lane.next? = none ∧ lane.take = lane) ∨
      ∃ event queue, lane.next? = some event ∧ lane.current = none ∧ lane.queue = event :: queue ∧
        lane.take = { lane with current := some event, queue } := by
  unfold next? take
  cases current : lane.current with
  | some event => exact .inl ⟨rfl, rfl⟩
  | none =>
    cases queued : lane.queue with
    | nil => exact .inl ⟨rfl, rfl⟩
    | cons event queue => exact .inr ⟨event, queue, rfl, rfl, rfl, rfl⟩

theorem isKept_take (lane : Lane σ) : lane.take.isKept = lane.isKept := by
  rcases lane.take_cases with ⟨_, same⟩ | ⟨event, queue, _, idle, queued, up⟩
  · rw [same]
  · rw [up]
    simp [isKept, isIdle, queued]

/-- The events that some lanes have not taken up yet, lane by lane. -/
def waiting (lanes : List (Lane σ)) : List Event := lanes.flatMap (·.queue)

def underWay (lanes : List (Lane σ)) : List Event := lanes.flatMap (·.current.toList)

theorem waiting_append (lanes more : List (Lane σ)) :
    waiting (lanes ++ more) = waiting lanes ++ waiting more := List.flatMap_append

theorem underWay_append (lanes more : List (Lane σ)) :
    underWay (lanes ++ more) = underWay lanes ++ underWay more := List.flatMap_append

theorem waiting_cons (lane : Lane σ) (lanes : List (Lane σ)) :
    waiting (lane :: lanes) = lane.queue ++ waiting lanes := List.flatMap_cons

theorem underWay_cons (lane : Lane σ) (lanes : List (Lane σ)) :
    underWay (lane :: lanes) = lane.current.toList ++ underWay lanes := List.flatMap_cons

theorem idle_of_not_kept {lane : Lane σ} (dropped : lane.isKept = false) :
    lane.current = none ∧ lane.queue = [] := by
  simp [isKept, isIdle] at dropped
  exact dropped.2

theorem filter_isKept (lanes : List (Lane σ)) :
    waiting (lanes.filter (·.isKept)) = waiting lanes ∧
      underWay (lanes.filter (·.isKept)) = underWay lanes := by
  induction lanes with
  | nil => exact ⟨rfl, rfl⟩
  | cons lane lanes ih =>
    rw [waiting_cons, underWay_cons, ← ih.1, ← ih.2]
    cases kept : lane.isKept with
    | true =>
      rw [List.filter_cons_of_pos kept]
      exact ⟨waiting_cons _ _, underWay_cons _ _⟩
    | false =>
      obtain ⟨idle, empty⟩ := idle_of_not_kept kept
      rw [List.filter_cons_of_neg (by simp [kept]), idle, empty]
      exact ⟨rfl, rfl⟩

variable [DecidableEq σ]

/-- Those of some lanes that are a listener's own. -/
def own (lanes : List (Lane σ)) (s : σ) : List (Lane σ) :=
  lanes.filter fun lane => lane.listener = s

theorem mem_own {lanes : List (Lane σ)} {s : σ} {lane : Lane σ} :
    lane ∈ own lanes s ↔ lane ∈ lanes ∧ lane.listener = s := by
  simp [own]

theorem own_append (lanes more : List (Lane σ)) (s : σ) :
    own (lanes ++ more) s = own lanes s ++ own more s := List.filter_append lanes more

theorem own_cons (lane : Lane σ) (lanes : List (Lane σ)) (s : σ) :
    own (lane :: lanes) s = (if lane.listener = s then [lane] else []) ++ own lanes s := by
  unfold own
  rw [List.filter_cons]
  by_cases same : lane.listener = s <;> simp [same]

theorem own_map {change : Lane σ → Lane σ}
    (listener : ∀ lane, (change lane).listener = lane.listener) (lanes : List (Lane σ)) (s : σ) :
    own (lanes.map change) s = (own lanes s).map change := by
  unfold own
  rw [List.filter_map]
  congr 2
  funext lane
  rw [Function.comp_apply, listener lane]

theorem own_filter (keep : Lane σ → Bool) (lanes : List (Lane σ)) (s : σ) :
    own (lanes.filter keep) s = (own lanes s).filter keep := by
  unfold own
  rw [List.filter_filter, List.filter_filter]
  apply List.filter_congr
  intro lane _
  exact Bool.and_comm _ _

theorem ordered_own {lanes : List (Lane σ)} (ordered : Ordered lanes) (s : σ) :
    Ordered (own lanes s) := ordered.sublist List.filter_sublist

theorem own_eq_concat {lanes : List (Lane σ)} (ordered : Ordered lanes) {s : σ}
    (opened : ∃ lane ∈ lanes, lane.serves s = true) :
    ∃ front lane, own lanes s = front ++ [lane] ∧ lane.serves s = true ∧
      ∀ older ∈ front, older.isOpen = false := by
  obtain ⟨lane, listed, serves⟩ := opened
  obtain ⟨isOpen, listener⟩ := serves_iff.mp serves
  obtain ⟨front, back, split⟩ := List.append_of_mem (mem_own.mpr ⟨listed, listener⟩)
  have order := ordered_own ordered s
  rw [split, Ordered, List.pairwise_append] at order
  obtain ⟨_, behind, across⟩ := order
  have mine : ∀ other ∈ own lanes s, other.listener = s := fun other there => (mem_own.mp there).2
  rw [split] at mine
  have last : back = [] := by
    apply List.eq_nil_iff_forall_not_mem.mpr
    intro other there
    have apart := (List.pairwise_cons.mp behind).1 other there isOpen
    have same := mine other (List.mem_append_right front (List.mem_cons_of_mem lane there))
    exact apart (listener.trans same.symm)
  refine ⟨front, lane, by rw [split, last], serves, ?_⟩
  intro older there
  rw [← Bool.not_eq_true]
  intro stillOpen
  have apart := across older there lane List.mem_cons_self stillOpen
  exact apart ((mine older (List.mem_append_left _ there)).trans listener.symm)

/-- What happens to a listener, and what becomes of its lanes. -/
inductive Shifts (s : σ) : Option Happening → List (Lane σ) → List (Lane σ) → Prop
  | kept (lanes : List (Lane σ)) : Shifts s none lanes lanes
  | pushed {front : List (Lane σ)} {lane : Lane σ} {event : Event} (isOpen : lane.isOpen = true) :
      Shifts s (some (.queued event)) (front ++ [lane]) (front ++ [lane.push event])
  | opened {lanes : List (Lane σ)} {event : Event}
      (closed : ∀ lane ∈ lanes, lane.isOpen = false) :
      Shifts s (some (.queued event)) lanes (lanes ++ [⟨s, true, true, none, [event]⟩])
  | shut (lanes : List (Lane σ)) :
      Shifts s (some .closed) lanes ((lanes.map Lane.shut).filter (·.isKept))
  | taken {front back : List (Lane σ)} {lane : Lane σ} {event : Event} {queue : List Event}
      (idle : lane.current = none) (waits : lane.queue = event :: queue) :
      Shifts s (some (.handed event)) (front ++ lane :: back)
        (front ++ { lane with current := some event, queue } :: back)
  | done {front back : List (Lane σ)} {lane : Lane σ} {event : Event} {panicked : Bool}
      (current : lane.current = some event) :
      Shifts s (some (.ended event panicked)) (front ++ lane :: back)
        ((front ++ lane.done :: back).filter (·.isKept))

end Lane

namespace Lanes

variable [DecidableEq σ]

/-- Sound lanes none of which is of no use any more. -/
structure Tidy (l : Lanes σ) : Prop extends Sound l where
  kept : ∀ lane ∈ l.lanes, lane.isKept = true

omit [DecidableEq σ] in
theorem empty_tidy : ({} : Lanes σ).Tidy := ⟨empty_sound, List.forall_mem_nil _⟩

/-- The listener and the event of the callback under way in the lane at an index. -/
def underWay? (l : Lanes σ) (index : Nat) : Option (σ × Event) :=
  l.lanes[index]?.bind fun lane => lane.current.map fun event => (lane.listener, event)

/-- A callback that has come to its end. -/
structure Ending (σ : Type) where
  listener : σ
  event : Event
  panicked : Bool

/-- The callback that a step brings to its end. -/
def ending? (l : Lanes σ) : Step σ → Option (Ending σ)
  | .finish index panicked =>
    (l.underWay? index).map fun (listener, event) => ⟨listener, event, panicked⟩
  | _ => none

/-- The callbacks of all listeners that come to their ends in a run. -/
def endings (l : Lanes σ) : List (Step σ) → List (Ending σ)
  | [] => []
  | step :: steps => (l.ending? step).toList ++ (l.step step).endings steps

def lanesOf (l : Lanes σ) (s : σ) : List (Lane σ) := Lane.own l.lanes s

/-- The events that are queued for a listener and that it is yet to be handed, oldest lane first. -/
def waitingFor (l : Lanes σ) (s : σ) : List Event := Lane.waiting (l.lanesOf s)

def underWayFor (l : Lanes σ) (s : σ) : List Event := Lane.underWay (l.lanesOf s)

/-- What a step is to a listener, if it is anything to it. -/
def happens (l : Lanes σ) (s : σ) : Step σ → Option Happening
  | .deliver listener event => if listener = s then some (.queued event) else none
  | .close listener => if listener = s then some .closed else none
  | .closeAll => some .closed
  | .take index =>
    (l.next? index).bind fun (listener, event) =>
      if listener = s then some (.handed event) else none
  | .finish index panicked =>
    (l.underWay? index).bind fun (listener, event) =>
      if listener = s then some (.ended event panicked) else none

/-- All that happens to a listener in a run. -/
def history (l : Lanes σ) (s : σ) : List (Step σ) → List Happening
  | [] => []
  | step :: steps => (l.happens s step).toList ++ (l.step step).history s steps

theorem deliver_tidy {l : Lanes σ} (tidy : l.Tidy) (s : σ) (event : Event) :
    (l.deliver s event).Tidy := by
  refine ⟨tidy.toSound.deliver s event, ?_⟩
  rcases deliver_cases tidy.toSound s event with ⟨_, delivered⟩ | ⟨_, delivered⟩
  · rw [delivered]
    intro lane member
    obtain ⟨old, listed, rfl⟩ := List.mem_map.mp member
    cases serves : old.serves s with
    | false => exact tidy.kept old listed
    | true =>
      have isOpen : old.isOpen = true := (Lane.serves_iff.mp serves).1
      simp [Lane.isKept, Lane.push, isOpen]
  · rw [delivered]
    intro lane member
    rcases List.mem_append.mp member with old | last
    · exact tidy.kept lane old
    · rw [List.mem_singleton.mp last]
      rfl

omit [DecidableEq σ] in
theorem take_tidy {l : Lanes σ} (tidy : l.Tidy) (index : Nat) : (l.take index).Tidy := by
  refine ⟨tidy.toSound.take index, ?_⟩
  intro lane member
  have same := map_modify Lane.isKept_take l.lanes index
  have listed : lane.isKept ∈ (l.lanes.modify index Lane.take).map Lane.isKept :=
    List.mem_map_of_mem member
  rw [same] at listed
  obtain ⟨old, there, equal⟩ := List.mem_map.mp listed
  exact equal.symm.trans (tidy.kept old there)

omit [DecidableEq σ] in
theorem finish_tidy {l : Lanes σ} (tidy : l.Tidy) (index : Nat) (panicked : Bool) :
    (l.finish index panicked).Tidy := by
  refine ⟨tidy.toSound.finish index panicked, ?_⟩
  unfold Lanes.finish
  split
  · exact fun lane member => (List.mem_filter.mp member).2
  · exact tidy.kept

theorem step_tidy {l : Lanes σ} (tidy : l.Tidy) (step : Step σ) : (l.step step).Tidy := by
  cases step with
  | deliver listener event => exact deliver_tidy tidy listener event
  | close listener =>
    exact ⟨tidy.toSound.close listener, fun lane member => (List.mem_filter.mp member).2⟩
  | closeAll => exact ⟨tidy.toSound.closeAll, fun lane member => (List.mem_filter.mp member).2⟩
  | take index => exact take_tidy tidy index
  | finish index panicked => exact finish_tidy tidy index panicked

theorem run_tidy (steps : List (Step σ)) : (({} : Lanes σ).run steps).Tidy :=
  run_induct Tidy (fun _ step tidy => step_tidy tidy step) empty_tidy steps

theorem Tidy.own_kept {l : Lanes σ} (tidy : l.Tidy) (s : σ) :
    (l.lanesOf s).filter (·.isKept) = l.lanesOf s := by
  rw [List.filter_eq_self]
  intro lane member
  exact tidy.kept lane (Lane.mem_own.mp member).1

theorem deliver_shifts {l : Lanes σ} (sound : l.Sound) (s t : σ) (event : Event) :
    Lane.Shifts s (l.happens s (.deliver t event)) (l.lanesOf s)
      ((l.deliver t event).lanesOf s) := by
  have pushes : ∀ lane : Lane σ,
      (if lane.serves t then lane.push event else lane).listener = lane.listener := by
    intro lane
    split <;> rfl
  unfold happens lanesOf
  rcases deliver_cases sound t event with ⟨opened, delivered⟩ | ⟨none, delivered⟩
  · rw [delivered]
    dsimp only
    rw [Lane.own_map pushes]
    by_cases same : t = s
    · subst same
      obtain ⟨front, lane, split, serves, closed⟩ := Lane.own_eq_concat sound.ordered opened
      have others : front.map (fun lane => if lane.serves t then lane.push event else lane) =
          front := by
        refine Eq.trans (List.map_congr_left ?_) (List.map_id front)
        intro older there
        have apart : ¬older.serves t = true := by simp [Lane.serves, closed older there]
        exact if_neg apart
      rw [if_pos rfl, split, List.map_append, others, List.map_singleton, if_pos serves]
      exact .pushed (Lane.serves_iff.mp serves).1
    · have others : (Lane.own l.lanes s).map
          (fun lane => if lane.serves t then lane.push event else lane) = Lane.own l.lanes s := by
        refine Eq.trans (List.map_congr_left ?_) (List.map_id _)
        intro lane member
        have listener := (Lane.mem_own.mp member).2
        have apart : ¬lane.serves t = true := fun serves =>
          same ((Lane.serves_iff.mp serves).2.symm.trans listener)
        exact if_neg apart
      rw [if_neg same, others]
      exact .kept _
  · rw [delivered]
    dsimp only
    rw [Lane.own_append, Lane.own_cons]
    by_cases same : t = s
    · subst same
      have closed : ∀ lane ∈ Lane.own l.lanes t, lane.isOpen = false := by
        intro lane member
        obtain ⟨listed, listener⟩ := Lane.mem_own.mp member
        have apart := none lane listed
        simpa [Lane.serves, listener] using apart
      rw [if_pos rfl, if_pos rfl]
      exact .opened closed
    · rw [if_neg same, if_neg same]
      change Lane.Shifts s .none _ (Lane.own l.lanes s ++ [])
      rw [List.append_nil]
      exact .kept _

theorem close_shifts {l : Lanes σ} (tidy : l.Tidy) (s t : σ) :
    Lane.Shifts s (l.happens s (.close t)) (l.lanesOf s) ((l.close t).lanesOf s) := by
  have shuts : ∀ lane : Lane σ,
      (if lane.listener = t then lane.shut else lane).listener = lane.listener := by
    intro lane
    split <;> rfl
  have closing : (l.close t).lanesOf s = ((l.lanesOf s).map fun lane =>
      if lane.listener = t then lane.shut else lane).filter (·.isKept) := by
    unfold lanesOf close
    rw [Lane.own_filter, Lane.own_map shuts]
  rw [closing]
  change Lane.Shifts s (if t = s then some .closed else none) _ _
  by_cases same : t = s
  · subst same
    have own : ((l.lanesOf t).map fun lane => if lane.listener = t then lane.shut else lane) =
        (l.lanesOf t).map Lane.shut :=
      List.map_congr_left fun lane member => if_pos (Lane.mem_own.mp member).2
    rw [if_pos rfl, own]
    exact .shut _
  · have others : ((l.lanesOf s).map fun lane => if lane.listener = t then lane.shut else lane) =
        l.lanesOf s := by
      refine Eq.trans (List.map_congr_left ?_) (List.map_id _)
      intro lane member
      have listener := (Lane.mem_own.mp member).2
      exact if_neg fun theirs => same (theirs.symm.trans listener)
    rw [if_neg same, others, tidy.own_kept]
    exact .kept _

theorem closeAll_shifts (l : Lanes σ) (s : σ) :
    Lane.Shifts s (some .closed) (l.lanesOf s) (l.closeAll.lanesOf s) := by
  have shuts : ∀ lane : Lane σ, lane.shut.listener = lane.listener := fun _ => rfl
  have closing : l.closeAll.lanesOf s = ((l.lanesOf s).map Lane.shut).filter (·.isKept) := by
    unfold lanesOf closeAll
    rw [Lane.own_filter, Lane.own_map shuts]
  rw [closing]
  exact .shut _

theorem lanesOf_around {l : Lanes σ} {index : Nat} {lane : Lane σ}
    (found : l.lanes[index]? = some lane) (s : σ) :
    l.lanesOf s = Lane.own (l.lanes.take index) s ++
      (if lane.listener = s then [lane] else []) ++ Lane.own (l.lanes.drop (index + 1)) s := by
  obtain ⟨bound, rfl⟩ := List.getElem?_eq_some_iff.mp found
  have split : l.lanes = l.lanes.take index ++ l.lanes[index] :: l.lanes.drop (index + 1) := by
    rw [List.getElem_cons_drop, List.take_append_drop]
  unfold lanesOf
  conv_lhs => rw [split]
  rw [Lane.own_append, Lane.own_cons, List.append_assoc]

theorem own_modify {l : Lanes σ} {index : Nat} {lane : Lane σ}
    (found : l.lanes[index]? = some lane) {change : Lane σ → Lane σ}
    (listener : (change lane).listener = lane.listener) (s : σ) :
    Lane.own (l.lanes.modify index change) s = Lane.own (l.lanes.take index) s ++
      (if lane.listener = s then [change lane] else []) ++
        Lane.own (l.lanes.drop (index + 1)) s := by
  obtain ⟨bound, rfl⟩ := List.getElem?_eq_some_iff.mp found
  rw [List.modify_eq_take_cons_drop bound, Lane.own_append, Lane.own_cons, listener,
    List.append_assoc]

theorem happens_take {l : Lanes σ} {index : Nat} {lane : Lane σ}
    (found : l.lanes[index]? = some lane) (s : σ) :
    l.happens s (.take index) =
      lane.next?.bind fun event => if lane.listener = s then some (.handed event) else none := by
  simp only [happens, next?, found, Option.bind_some]
  cases lane.next? <;> rfl

omit [DecidableEq σ] in
theorem next?_eq_some {l : Lanes σ} {index : Nat} {s : σ} {event : Event}
    (next : l.next? index = some (s, event)) :
    ∃ lane, l.lanes[index]? = some lane ∧ lane.listener = s ∧ lane.next? = some event := by
  obtain ⟨lane, found, follows⟩ := Option.bind_eq_some_iff.mp next
  obtain ⟨event', own, same⟩ := Option.map_eq_some_iff.mp follows
  obtain ⟨rfl, rfl⟩ := Prod.mk.inj same
  exact ⟨lane, found, rfl, own⟩

omit [DecidableEq σ] in
theorem take_eq_self {l : Lanes σ} {index : Nat} (nothing : l.next? index = none) :
    l.take index = l := by
  have same : l.lanes.modify index Lane.take = l.lanes := by
    apply List.ext_getElem?
    intro place
    rw [List.getElem?_modify]
    by_cases here : index = place
    · subst here
      cases found : l.lanes[index]? with
      | none => rfl
      | some lane =>
        rcases lane.take_cases with ⟨_, idle⟩ | ⟨event, queue, next, _⟩
        · simp [idle]
        · simp [next?, found, next] at nothing
    · simp [here]
  unfold take
  rw [same]

theorem happens_take_of_next {l : Lanes σ} {index : Nat} {t : σ} {event : Event}
    (next : l.next? index = some (t, event)) (s : σ) :
    l.happens s (.take index) = if t = s then some (.handed event) else none := by
  simp only [happens, next, Option.bind_some]

theorem happens_take_of_none {l : Lanes σ} {index : Nat} (nothing : l.next? index = none) (s : σ) :
    l.happens s (.take index) = none := by
  simp only [happens, nothing, Option.bind_none]

theorem happens_take_handed {l : Lanes σ} {s : σ} {index : Nat} {happening : Happening}
    (happens : l.happens s (.take index) = some happening) :
    ∃ event, happening = .handed event := by
  obtain ⟨⟨listener, event⟩, _, hands⟩ := Option.bind_eq_some_iff.mp happens
  by_cases own : listener = s
  · exact ⟨event, (Option.some.inj ((if_pos own).symm.trans hands)).symm⟩
  · cases (if_neg own).symm.trans hands

theorem happens_finish_ended {l : Lanes σ} {s : σ} {index : Nat} {panicked : Bool}
    {happening : Happening} (happens : l.happens s (.finish index panicked) = some happening) :
    ∃ event, happening = .ended event panicked := by
  obtain ⟨⟨listener, event⟩, _, ends⟩ := Option.bind_eq_some_iff.mp happens
  by_cases own : listener = s
  · exact ⟨event, (Option.some.inj ((if_pos own).symm.trans ends)).symm⟩
  · cases (if_neg own).symm.trans ends

theorem happens_handed {l : Lanes σ} {s : σ} {step : Step σ} {event : Event}
    (happens : l.happens s step = some (.handed event)) :
    ∃ index, step = .take index ∧ l.next? index = some (s, event) := by
  unfold Lanes.happens at happens
  cases step with
  | deliver listener event => simp at happens
  | close listener => simp at happens
  | closeAll => simp at happens
  | take index =>
    refine ⟨index, rfl, ?_⟩
    obtain ⟨⟨listener, event'⟩, next, hands⟩ := Option.bind_eq_some_iff.mp happens
    by_cases own : listener = s
    · simp only [own, if_true, Option.some.injEq, Happening.handed.injEq] at hands
      rw [next, own, hands]
    · simp [own] at hands
  | finish index panicked =>
    obtain ⟨_, same⟩ := happens_finish_ended happens
    cases same

theorem happens_finish {l : Lanes σ} {index : Nat} {lane : Lane σ}
    (found : l.lanes[index]? = some lane) (s : σ) (panicked : Bool) :
    l.happens s (.finish index panicked) =
      lane.current.bind fun event =>
        if lane.listener = s then some (.ended event panicked) else none := by
  simp only [happens, underWay?, found, Option.bind_some]
  cases lane.current <;> rfl

theorem take_shifts (l : Lanes σ) (s : σ) (index : Nat) :
    Lane.Shifts s (l.happens s (.take index)) (l.lanesOf s) ((l.take index).lanesOf s) := by
  cases found : l.lanes[index]? with
  | none =>
    have nothing : l.happens s (.take index) = none := by
      simp only [happens, next?, found, Option.bind_none]
    have same : l.take index = l := by
      unfold take
      rw [List.modify_eq_self (List.getElem?_eq_none_iff.mp found)]
    rw [nothing, same]
    exact .kept _
  | some lane =>
    have taking : (l.take index).lanesOf s = Lane.own (l.lanes.modify index Lane.take) s := rfl
    rw [happens_take found, taking, lanesOf_around found, own_modify found lane.take_fields.1]
    rcases lane.take_cases with ⟨nothing, same⟩ | ⟨event, queue, next, idle, queued, up⟩
    · rw [nothing, same]
      exact .kept _
    · rw [next, up, Option.bind_some]
      by_cases own : lane.listener = s
      · rw [if_pos own, if_pos own, if_pos own, List.append_assoc, List.append_assoc]
        exact .taken idle queued
      · rw [if_neg own, if_neg own, if_neg own]
        exact .kept _

theorem finish_shifts {l : Lanes σ} (tidy : l.Tidy) (s : σ) (index : Nat) (panicked : Bool) :
    Lane.Shifts s (l.happens s (.finish index panicked)) (l.lanesOf s)
      ((l.finish index panicked).lanesOf s) := by
  cases found : l.lanes[index]? with
  | none =>
    have nothing : l.happens s (.finish index panicked) = none := by
      simp only [happens, underWay?, found, Option.bind_none]
    have same : l.finish index panicked = l := by
      simp only [Lanes.finish, found, Option.bind_none]
    rw [nothing, same]
    exact .kept _
  | some lane =>
    rw [happens_finish found]
    cases current : lane.current with
    | none =>
      have same : l.finish index panicked = l := by
        simp only [Lanes.finish, found, Option.bind_some, current]
      rw [same]
      exact .kept _
    | some event =>
      have ending : (l.finish index panicked).lanesOf s =
          Lane.own ((l.lanes.modify index Lane.done).filter (·.isKept)) s := by
        simp only [Lanes.finish, found, Option.bind_some, current]
        rfl
      have listener : lane.done.listener = lane.listener := rfl
      have tidied := tidy.own_kept s
      rw [lanesOf_around found] at tidied ⊢
      rw [ending, Lane.own_filter, own_modify found listener, Option.bind_some]
      by_cases own : lane.listener = s
      · rw [if_pos own, if_pos own, if_pos own, List.append_assoc, List.append_assoc]
        exact .done current
      · rw [if_neg own] at tidied ⊢
        rw [if_neg own, if_neg own, tidied]
        exact .kept _

omit [DecidableEq σ] in
theorem shifts_waiting {s : σ} {happening : Option Happening} {own own' : List (Lane σ)}
    (shifts : Lane.Shifts s happening own own')
    (quiet : Happening.handedIn happening.toList = []) :
    Lane.waiting own' = Lane.waiting own ++ Happening.queuedIn happening.toList := by
  have nothing : Lane.waiting own ++ [] = Lane.waiting own := List.append_nil _
  cases shifts with
  | kept => exact nothing.symm
  | @pushed front lane event isOpen =>
    change Lane.waiting (front ++ [lane.push event]) = Lane.waiting (front ++ [lane]) ++ [event]
    simp [Lane.waiting, Lane.push]
  | @opened _ event closed =>
    change Lane.waiting (own ++ [_]) = Lane.waiting own ++ [event]
    rw [Lane.waiting_append]
    rfl
  | shut =>
    refine Eq.trans ?_ nothing.symm
    rw [(Lane.filter_isKept _).1]
    exact List.flatMap_map ..
  | taken idle waits => cases quiet
  | @done front back lane event panicked current =>
    refine Eq.trans ?_ nothing.symm
    rw [(Lane.filter_isKept _).1, Lane.waiting_append, Lane.waiting_append]
    rfl

omit [DecidableEq σ] in
theorem shifts_underWay {s : σ} {happening : Option Happening} {own own' : List (Lane σ)}
    (shifts : Lane.Shifts s happening own own')
    (aside : ∀ mine, happening = some mine → mine.isWork = false) :
    Lane.underWay own' = Lane.underWay own := by
  cases shifts with
  | kept => rfl
  | @pushed front lane event isOpen =>
    rw [Lane.underWay_append, Lane.underWay_append]
    rfl
  | opened closed =>
    rw [Lane.underWay_append]
    exact List.append_nil _
  | shut =>
    rw [(Lane.filter_isKept _).2]
    exact List.flatMap_map ..
  | taken idle waits => cases aside _ rfl
  | done current => cases aside _ rfl

/-- What a step is to a listener tells what becomes of its lanes. -/
theorem step_shifts {l : Lanes σ} (tidy : l.Tidy) (s : σ) (step : Step σ) :
    Lane.Shifts s (l.happens s step) (l.lanesOf s) ((l.step step).lanesOf s) := by
  cases step with
  | deliver listener event => exact deliver_shifts tidy.toSound s listener event
  | close listener => exact close_shifts tidy s listener
  | closeAll => exact closeAll_shifts l s
  | take index => exact take_shifts l s index
  | finish index panicked => exact finish_shifts tidy s index panicked

end Lanes

end MeterHub
