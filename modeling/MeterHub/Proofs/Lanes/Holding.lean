import Mathlib.Data.List.Basic
import MeterHub.Distinct
import MeterHub.Lanes

/-!
What the lanes of a listener hold, one after the other in the order in which they opened. As long as
lanes are kept in order and are served, an event for a listener comes behind all that the listener
is yet to be handed, and neither opening nor closing a lane loses or adds anything.
-/

set_option autoImplicit false
set_option relaxedAutoImplicit false

namespace MeterHub

variable {σ : Type}

namespace Lane

theorem held_push (lane : Lane σ) (event : Event) :
    (lane.push event).held = lane.held ++ [event] := by
  unfold held push
  rw [List.append_assoc]

theorem held_take (lane : Lane σ) : lane.take.held = lane.held := by
  unfold take
  split
  · rename_i event queue idle queued
    unfold held
    rw [idle, queued]
    rfl
  · rfl

theorem take_fields (lane : Lane σ) :
    lane.take.listener = lane.listener ∧ lane.take.isOpen = lane.isOpen ∧
      lane.take.served = lane.served := by
  unfold take
  split <;> exact ⟨rfl, rfl, rfl⟩

theorem held_of_not_kept {lane : Lane σ} (dropped : lane.isKept = false) : lane.held = [] := by
  have idle : lane.current = none ∧ lane.queue = [] := by
    simp [isKept, isIdle] at dropped
    exact dropped.2
  unfold held
  rw [idle.1, idle.2]
  rfl

/-- Behind an open lane there is no other one of its listener. -/
def Ordered (lanes : List (Lane σ)) : Prop :=
  lanes.Pairwise fun a b => a.isOpen = true → a.listener ≠ b.listener

variable [DecidableEq σ]

theorem serves_iff {lane : Lane σ} {s : σ} :
    lane.serves s = true ↔ lane.isOpen = true ∧ lane.listener = s := by
  simp [serves]

/-- What some lanes hold for a listener. -/
def heldFor (lanes : List (Lane σ)) (s : σ) : List Event :=
  lanes.flatMap fun lane => if lane.listener = s then lane.held else []

theorem heldFor_cons (lane : Lane σ) (lanes : List (Lane σ)) (s : σ) :
    heldFor (lane :: lanes) s = (if lane.listener = s then lane.held else []) ++ heldFor lanes s :=
  List.flatMap_cons

theorem heldFor_append (lanes more : List (Lane σ)) (s : σ) :
    heldFor (lanes ++ more) s = heldFor lanes s ++ heldFor more s :=
  List.flatMap_append

theorem heldFor_of_absent {lanes : List (Lane σ)} {s : σ}
    (absent : ∀ lane ∈ lanes, lane.listener ≠ s) : heldFor lanes s = [] := by
  unfold heldFor
  rw [List.flatMap_eq_nil_iff]
  intro lane member
  exact if_neg (absent lane member)

theorem heldFor_map {change : Lane σ → Lane σ} {lanes : List (Lane σ)}
    (listener : ∀ lane ∈ lanes, (change lane).listener = lane.listener)
    (held : ∀ lane ∈ lanes, (change lane).held = lane.held) (s : σ) :
    heldFor (lanes.map change) s = heldFor lanes s := by
  unfold heldFor
  rw [List.flatMap_map]
  apply List.flatMap_congr
  intro lane member
  rw [listener lane member, held lane member]

theorem heldFor_filter_isKept (lanes : List (Lane σ)) (s : σ) :
    heldFor (lanes.filter (·.isKept)) s = heldFor lanes s := by
  induction lanes with
  | nil => rfl
  | cons lane lanes ih =>
    rw [heldFor_cons]
    cases kept : lane.isKept with
    | true => rw [List.filter_cons_of_pos kept, heldFor_cons, ih]
    | false =>
      have nothing : lane.held = [] := held_of_not_kept kept
      rw [List.filter_cons_of_neg (by simp [kept]), ih, nothing, ite_self, List.nil_append]

theorem heldFor_push_other {lanes : List (Lane σ)} {s t : σ} (apart : t ≠ s) (event : Event) :
    heldFor (lanes.map fun lane => if lane.serves s then lane.push event else lane) t =
      heldFor lanes t := by
  unfold heldFor
  rw [List.flatMap_map]
  apply List.flatMap_congr
  intro lane _
  cases serves : lane.serves s with
  | false => rw [if_neg Bool.false_ne_true]
  | true =>
    obtain ⟨_, listener⟩ := serves_iff.mp serves
    have other : lane.listener ≠ t := fun own => apart (own.symm.trans listener)
    have otherPushed : (lane.push event).listener ≠ t := other
    rw [if_pos rfl, if_neg other, if_neg otherPushed]

theorem map_push_of_absent {lanes : List (Lane σ)} {s : σ}
    (others : ∀ lane ∈ lanes, lane.listener ≠ s) (event : Event) :
    (lanes.map fun lane => if lane.serves s then lane.push event else lane) = lanes := by
  refine Eq.trans (List.map_congr_left ?_) (List.map_id lanes)
  intro lane member
  have apart : ¬lane.serves s = true := fun hit => others lane member (serves_iff.mp hit).2
  exact if_neg apart

theorem heldFor_push_own {lanes : List (Lane σ)} (ordered : Ordered lanes) {s : σ}
    (opened : ∃ lane ∈ lanes, lane.serves s = true) (event : Event) :
    heldFor (lanes.map fun lane => if lane.serves s then lane.push event else lane) s =
      heldFor lanes s ++ [event] := by
  induction lanes with
  | nil =>
    obtain ⟨lane, member, _⟩ := opened
    cases member
  | cons first lanes ih =>
    obtain ⟨behind, later⟩ := List.pairwise_cons.mp ordered
    rw [List.map_cons, heldFor_cons, heldFor_cons]
    cases serves : first.serves s with
    | true =>
      -- the open lane of a listener is its last one
      obtain ⟨isOpen, listener⟩ := serves_iff.mp serves
      have others : ∀ lane ∈ lanes, lane.listener ≠ s := by
        intro lane member
        exact (listener ▸ behind lane member isOpen).symm
      have pushed : (first.push event).listener = s := listener
      rw [map_push_of_absent others, heldFor_of_absent others, if_pos rfl, if_pos pushed,
        if_pos listener, held_push, List.append_nil, List.append_nil]
    | false =>
      have rest : ∃ lane ∈ lanes, lane.serves s = true := by
        obtain ⟨lane, member, hit⟩ := opened
        rcases List.mem_cons.mp member with rfl | listed
        · rw [serves] at hit
          cases hit
        · exact ⟨lane, listed, hit⟩
      rw [if_neg Bool.false_ne_true, ih later rest, List.append_assoc]

theorem heldFor_push {lanes : List (Lane σ)} (ordered : Ordered lanes) {s : σ}
    (opened : ∃ lane ∈ lanes, lane.serves s = true) (event : Event) (t : σ) :
    heldFor (lanes.map fun lane => if lane.serves s then lane.push event else lane) t =
      heldFor lanes t ++ if t = s then [event] else [] := by
  by_cases same : t = s
  · subst same
    rw [if_pos rfl, heldFor_push_own ordered opened]
  · rw [if_neg same, List.append_nil, heldFor_push_other same]

end Lane

namespace Lanes

/-- Lanes that open are served, every lane is, and behind an open lane there is no other one of its
listener. -/
structure Sound (l : Lanes σ) : Prop where
  accepting : l.accepting = true
  served : ∀ lane ∈ l.lanes, lane.served = true
  ordered : Lane.Ordered l.lanes

theorem empty_sound : ({} : Lanes σ).Sound :=
  ⟨rfl, List.forall_mem_nil _, List.Pairwise.nil⟩

theorem Sound.filter_isKept {l : Lanes σ} {lanes : List (Lane σ)} (accepting : l.accepting = true)
    (served : ∀ lane ∈ lanes, lane.served = true) (ordered : Lane.Ordered lanes) :
    ({ l with lanes := lanes.filter (·.isKept) } : Lanes σ).Sound := by
  refine ⟨accepting, ?_, ordered.sublist List.filter_sublist⟩
  intro lane member
  exact served lane (List.mem_filter.mp member).1

variable [DecidableEq σ]

/-- What the lanes of a listener hold, those that opened first first. -/
def heldFor (l : Lanes σ) (s : σ) : List Event := Lane.heldFor l.lanes s

theorem mem_openListeners {l : Lanes σ} {s : σ} :
    s ∈ l.openListeners ↔ ∃ lane ∈ l.lanes, lane.serves s = true := by
  unfold openListeners
  rw [List.mem_map]
  constructor
  · rintro ⟨lane, member, listener⟩
    obtain ⟨listed, isOpen⟩ := List.mem_filter.mp member
    exact ⟨lane, listed, Lane.serves_iff.mpr ⟨isOpen, listener⟩⟩
  · rintro ⟨lane, listed, serves⟩
    obtain ⟨isOpen, listener⟩ := Lane.serves_iff.mp serves
    exact ⟨lane, List.mem_filter.mpr ⟨listed, isOpen⟩, listener⟩

theorem deliver_cases {l : Lanes σ} (sound : l.Sound) (s : σ) (event : Event) :
    ((∃ lane ∈ l.lanes, lane.serves s = true) ∧
      l.deliver s event =
        { l with lanes := l.lanes.map fun lane => if lane.serves s then lane.push event else lane }) ∨
    ((∀ lane ∈ l.lanes, lane.serves s = false) ∧
      l.deliver s event = { l with lanes := l.lanes ++ [⟨s, true, true, none, [event]⟩] }) := by
  unfold deliver
  cases found : l.lanes.find? (·.serves s) with
  | some lane =>
    have member : lane ∈ l.lanes := List.mem_of_find?_eq_some found
    have serves : lane.serves s = true := by simpa using List.find?_some found
    exact .inl ⟨⟨lane, member, serves⟩, if_pos (sound.served lane member)⟩
  | none =>
    have none : ∀ lane ∈ l.lanes, lane.serves s = false := by
      simpa using List.find?_eq_none.mp found
    refine .inr ⟨none, ?_⟩
    simp only [sound.accepting, if_true]

theorem Sound.deliver {l : Lanes σ} (sound : l.Sound) (s : σ) (event : Event) :
    (l.deliver s event).Sound := by
  rcases deliver_cases sound s event with ⟨_, delivered⟩ | ⟨none, delivered⟩
  · rw [delivered]
    refine ⟨sound.accepting, ?_, ?_⟩
    · intro lane member
      obtain ⟨old, listed, rfl⟩ := List.mem_map.mp member
      have served := sound.served old listed
      split <;> exact served
    · apply List.pairwise_map.mpr
      refine sound.ordered.imp ?_
      intro a b apart
      split <;> split <;> exact apart
  · rw [delivered]
    refine ⟨sound.accepting, ?_, ?_⟩
    · intro lane member
      rcases List.mem_append.mp member with old | last
      · exact sound.served lane old
      · rw [List.mem_singleton.mp last]
    · apply List.pairwise_append.mpr
      refine ⟨sound.ordered, List.pairwise_singleton _ _, ?_⟩
      intro lane listed last only isOpen listener
      rw [List.mem_singleton.mp only] at listener
      have serves : lane.serves s = true := Lane.serves_iff.mpr ⟨isOpen, listener⟩
      rw [none lane listed] at serves
      cases serves

theorem heldFor_deliver {l : Lanes σ} (sound : l.Sound) (s : σ) (event : Event) (t : σ) :
    (l.deliver s event).heldFor t = l.heldFor t ++ if t = s then [event] else [] := by
  unfold heldFor
  rcases deliver_cases sound s event with ⟨opened, delivered⟩ | ⟨_, delivered⟩
  · rw [delivered]
    exact Lane.heldFor_push sound.ordered opened event t
  · rw [delivered, Lane.heldFor_append, Lane.heldFor_cons]
    have only : Lane.heldFor ([] : List (Lane σ)) t = [] := rfl
    rw [only, List.append_nil]
    by_cases same : t = s
    · rw [if_pos same, if_pos same.symm]
      rfl
    · rw [if_neg same, if_neg (fun own => same own.symm)]

theorem openListeners_deliver {l : Lanes σ} (sound : l.Sound) (s : σ) (event : Event) :
    (l.deliver s event).openListeners = Distinct.add l.openListeners s := by
  rcases deliver_cases sound s event with ⟨opened, delivered⟩ | ⟨none, delivered⟩
  · have there : l.openListeners.contains s = true :=
      List.contains_iff_mem.mpr (mem_openListeners.mpr opened)
    rw [Distinct.add, if_pos there, delivered]
    unfold openListeners
    rw [List.filter_map, List.map_map]
    have isOpen : ((fun lane : Lane σ => lane.isOpen) ∘ fun lane : Lane σ =>
        if lane.serves s then lane.push event else lane) = fun lane => lane.isOpen := by
      funext lane
      simp only [Function.comp_apply]
      split <;> rfl
    rw [isOpen]
    apply List.map_congr_left
    intro lane _
    simp only [Function.comp_apply]
    split <;> rfl
  · have absent : ¬l.openListeners.contains s = true := by
      rw [List.contains_iff_mem, mem_openListeners]
      rintro ⟨lane, member, serves⟩
      rw [none lane member] at serves
      cases serves
    rw [Distinct.add, if_neg absent, delivered]
    unfold openListeners
    rw [List.filter_append, List.map_append]
    rfl

theorem deliverAll_spec {l : Lanes σ} (sound : l.Sound) (event : Event) {told : List σ}
    (once : told.Nodup) :
    (l.deliverAll event told).Sound ∧
      ∀ t, (l.deliverAll event told).heldFor t =
        l.heldFor t ++ if t ∈ told then [event] else [] := by
  induction told generalizing l with
  | nil =>
    refine ⟨sound, ?_⟩
    intro t
    rw [if_neg List.not_mem_nil, List.append_nil]
    rfl
  | cons s told ih =>
    obtain ⟨apart, rest⟩ := List.nodup_cons.mp once
    obtain ⟨still, held⟩ := ih (sound.deliver s event) rest
    refine ⟨still, ?_⟩
    intro t
    change ((l.deliver s event).deliverAll event told).heldFor t = _
    rw [held t, heldFor_deliver sound, List.append_assoc]
    congr 1
    by_cases same : t = s
    · subst same
      rw [if_pos rfl, if_neg apart, if_pos List.mem_cons_self, List.append_nil]
    · have iff : t ∈ s :: told ↔ t ∈ told := by
        rw [List.mem_cons, or_iff_right same]
      simp only [iff, if_neg same, List.nil_append]

theorem Sound.close {l : Lanes σ} (sound : l.Sound) (s : σ) : (l.close s).Sound := by
  apply Sound.filter_isKept sound.accepting
  · intro lane member
    obtain ⟨old, listed, rfl⟩ := List.mem_map.mp member
    have served := sound.served old listed
    split <;> exact served
  · apply List.pairwise_map.mpr
    refine sound.ordered.imp ?_
    intro a b apart isOpen
    by_cases closing : a.listener = s
    · rw [if_pos closing] at isOpen
      cases isOpen
    · rw [if_neg closing] at isOpen ⊢
      split <;> exact apart isOpen

theorem heldFor_close (l : Lanes σ) (s t : σ) : (l.close s).heldFor t = l.heldFor t := by
  unfold heldFor close
  rw [Lane.heldFor_filter_isKept]
  apply Lane.heldFor_map
  · intro lane _
    split <;> rfl
  · intro lane _
    split <;> rfl

theorem mem_openListeners_close {l : Lanes σ} {s t : σ} :
    t ∈ (l.close s).openListeners ↔ t ∈ l.openListeners ∧ t ≠ s := by
  rw [mem_openListeners, mem_openListeners]
  constructor
  · rintro ⟨lane, member, serves⟩
    obtain ⟨listed, _⟩ := List.mem_filter.mp member
    obtain ⟨old, there, rfl⟩ := List.mem_map.mp listed
    by_cases closing : old.listener = s
    · rw [if_pos closing] at serves
      cases (Lane.serves_iff.mp serves).1
    · rw [if_neg closing] at serves
      refine ⟨⟨old, there, serves⟩, ?_⟩
      intro same
      exact closing ((Lane.serves_iff.mp serves).2.trans same)
  · rintro ⟨⟨lane, there, serves⟩, other⟩
    obtain ⟨isOpen, listener⟩ := Lane.serves_iff.mp serves
    have spared : lane.listener ≠ s := fun same => other (listener.symm.trans same)
    refine ⟨lane, List.mem_filter.mpr ⟨?_, ?_⟩, serves⟩
    · exact List.mem_map.mpr ⟨lane, there, if_neg spared⟩
    · simp [Lane.isKept, isOpen]

omit [DecidableEq σ] in
theorem Sound.closeAll {l : Lanes σ} (sound : l.Sound) : l.closeAll.Sound := by
  apply Sound.filter_isKept sound.accepting
  · intro lane member
    obtain ⟨old, listed, rfl⟩ := List.mem_map.mp member
    exact sound.served old listed
  · apply List.pairwise_map.mpr
    refine sound.ordered.imp ?_
    intro a b _ isOpen
    cases isOpen

theorem heldFor_closeAll (l : Lanes σ) (t : σ) : l.closeAll.heldFor t = l.heldFor t := by
  unfold heldFor closeAll
  rw [Lane.heldFor_filter_isKept]
  apply Lane.heldFor_map
  · exact fun _ _ => rfl
  · exact fun _ _ => rfl

omit [DecidableEq σ] in
theorem Sound.openListeners_nodup {l : Lanes σ} (sound : l.Sound) : l.openListeners.Nodup := by
  apply List.pairwise_map.mpr
  refine (sound.ordered.sublist List.filter_sublist).imp_of_mem ?_
  intro a b listed _ apart
  exact apart (List.mem_filter.mp listed).2

omit [DecidableEq σ] in
theorem openListeners_closeAll (l : Lanes σ) : l.closeAll.openListeners = [] := by
  unfold openListeners
  rw [List.map_eq_nil_iff, List.filter_eq_nil_iff]
  intro lane member isOpen
  obtain ⟨old, _, rfl⟩ := List.mem_map.mp (List.mem_filter.mp member).1
  cases isOpen

omit [DecidableEq σ] in
theorem map_modify {β : Type} {view : Lane σ → β} {change : Lane σ → Lane σ}
    (same : ∀ lane, view (change lane) = view lane) (lanes : List (Lane σ)) (index : Nat) :
    (lanes.modify index change).map view = lanes.map view := by
  apply List.ext_getElem?
  intro place
  rw [List.getElem?_map, List.getElem?_map, List.getElem?_modify, Option.map_eq_map, Option.map_map]
  cases lanes[place]? with
  | none => rfl
  | some lane =>
    rw [Option.map_some, Option.map_some, Function.comp_apply]
    split
    · rw [same lane]
    · rfl

omit [DecidableEq σ] in
theorem ordered_modify {change : Lane σ → Lane σ}
    (same : ∀ lane, (change lane).listener = lane.listener ∧ (change lane).isOpen = lane.isOpen)
    {lanes : List (Lane σ)} (ordered : Lane.Ordered lanes) (index : Nat) :
    Lane.Ordered (lanes.modify index change) := by
  let view (lane : Lane σ) : σ × Bool := (lane.listener, lane.isOpen)
  have kept : (lanes.modify index change).map view = lanes.map view := by
    apply map_modify
    intro lane
    exact Prod.ext (same lane).1 (same lane).2
  have before : (lanes.map view).Pairwise fun a b => a.2 = true → a.1 ≠ b.1 :=
    List.pairwise_map.mpr ordered
  rw [← kept] at before
  exact List.pairwise_map.mp before

omit [DecidableEq σ] in
theorem served_modify {change : Lane σ → Lane σ} (same : ∀ lane, (change lane).served = lane.served)
    {lanes : List (Lane σ)} (served : ∀ lane ∈ lanes, lane.served = true) (index : Nat) :
    ∀ lane ∈ lanes.modify index change, lane.served = true := by
  intro lane member
  have kept := map_modify same lanes index
  have listed : lane.served ∈ (lanes.modify index change).map (·.served) := List.mem_map_of_mem member
  rw [kept] at listed
  obtain ⟨old, there, equal⟩ := List.mem_map.mp listed
  exact equal.symm.trans (served old there)

omit [DecidableEq σ] in
theorem Sound.take {l : Lanes σ} (sound : l.Sound) (index : Nat) : (l.take index).Sound where
  accepting := sound.accepting
  served := served_modify (fun lane => lane.take_fields.2.2) sound.served index
  ordered := ordered_modify (fun lane => ⟨lane.take_fields.1, lane.take_fields.2.1⟩) sound.ordered
    index

theorem heldFor_take (l : Lanes σ) (index : Nat) (t : σ) :
    (l.take index).heldFor t = l.heldFor t := by
  change ((l.lanes.modify index Lane.take).map _).flatten = (l.lanes.map _).flatten
  rw [map_modify]
  intro lane
  rw [lane.take_fields.1, lane.held_take]

theorem mem_openListeners_take {l : Lanes σ} {index : Nat} {s : σ}
    (isOpen : s ∈ (l.take index).openListeners) : s ∈ l.openListeners := by
  have same : (l.lanes.modify index Lane.take).map (·.serves s) = l.lanes.map (·.serves s) := by
    apply map_modify
    intro lane
    obtain ⟨listener, opened, _⟩ := lane.take_fields
    unfold Lane.serves
    rw [listener, opened]
  obtain ⟨lane, member, serves⟩ := mem_openListeners.mp isOpen
  have listed : lane.serves s ∈ (l.lanes.modify index Lane.take).map (·.serves s) :=
    List.mem_map_of_mem member
  rw [same, serves] at listed
  obtain ⟨old, there, serves'⟩ := List.mem_map.mp listed
  exact mem_openListeners.mpr ⟨old, there, serves'⟩

theorem mem_openListeners_finish {l : Lanes σ} {index : Nat} {panicked : Bool} {s : σ}
    (isOpen : s ∈ (l.finish index panicked).openListeners) : s ∈ l.openListeners := by
  unfold Lanes.finish at isOpen
  split at isOpen
  · have same : (l.lanes.modify index Lane.done).map (·.serves s) = l.lanes.map (·.serves s) := by
      apply map_modify
      intro lane
      rfl
    obtain ⟨lane, member, serves⟩ := mem_openListeners.mp isOpen
    have listed : lane.serves s ∈ (l.lanes.modify index Lane.done).map (·.serves s) :=
      List.mem_map_of_mem (List.mem_filter.mp member).1
    rw [same, serves] at listed
    obtain ⟨old, there, serves'⟩ := List.mem_map.mp listed
    exact mem_openListeners.mpr ⟨old, there, serves'⟩
  · exact isOpen

omit [DecidableEq σ] in
theorem Sound.finish {l : Lanes σ} (sound : l.Sound) (index : Nat) (panicked : Bool) :
    (l.finish index panicked).Sound := by
  unfold Lanes.finish
  split
  · refine ⟨sound.accepting, ?_, ?_⟩
    · intro lane member
      have listed : lane ∈ l.lanes.modify index Lane.done := (List.mem_filter.mp member).1
      have same (lane : Lane σ) : lane.done.served = lane.served := rfl
      exact served_modify same sound.served index lane listed
    · have same (lane : Lane σ) :
          lane.done.listener = lane.listener ∧ lane.done.isOpen = lane.isOpen := ⟨rfl, rfl⟩
      exact (ordered_modify same sound.ordered index).sublist List.filter_sublist
  · exact sound

theorem heldFor_finish (l : Lanes σ) (index : Nat) (panicked : Bool) (t : σ) :
    ((l.finish index panicked).heldFor t).Sublist (l.heldFor t) := by
  have fewer (lanes : List (Lane σ)) : (Lane.heldFor (lanes.modify index Lane.done) t).Sublist
      (Lane.heldFor lanes t) := by
    induction lanes generalizing index with
    | nil => rw [List.modify_nil]
    | cons first lanes ih =>
      cases index with
      | zero =>
        rw [List.modify_zero_cons, Lane.heldFor_cons, Lane.heldFor_cons]
        apply List.Sublist.append_right
        change (if first.listener = t then first.done.held else []).Sublist _
        split
        · exact List.sublist_append_right first.current.toList first.queue
        · exact List.Sublist.refl []
      | succ index =>
        rw [List.modify_succ_cons, Lane.heldFor_cons, Lane.heldFor_cons]
        exact (ih index).append_left _
  unfold Lanes.finish
  split
  · change (Lane.heldFor ((l.lanes.modify index Lane.done).filter (·.isKept)) t).Sublist _
    rw [Lane.heldFor_filter_isKept]
    exact fewer l.lanes
  · exact List.Sublist.refl _

end Lanes

end MeterHub
