import MeterHub.Proofs.Hub.Housing
import MeterHub.Proofs.Hub.Routing
import MeterHub.Proofs.Lanes.Single

/-!
The events of one subscriber, move by move: what is queued for it and what it is handed. A
subscriber whose lane is never closed while it has an entry, such as a read, is handed its events in
the order in which they were queued.
-/

set_option autoImplicit false
set_option relaxedAutoImplicit false

namespace MeterHub.Hub

/-- What a move queues for a subscriber: what its lanes hold behind all that they held before. -/
def queuedFor (h : Hub) (s : Subscriber) (m : Move) : List Event :=
  ((h.move m).lanes.heldFor s).drop (h.lanes.heldFor s).length

/-- What a subscriber is handed in a move. -/
def handedTo (h : Hub) (s : Subscriber) : Move → List Event
  | .takeUp lane => Happening.handedIn (h.lanes.happens s (.take lane)).toList
  | _ => []

def queuedIn (h : Hub) (s : Subscriber) : List Move → List Event
  | [] => []
  | m :: moves => h.queuedFor s m ++ (h.move m).queuedIn s moves

def handedIn (h : Hub) (s : Subscriber) : List Move → List Event
  | [] => []
  | m :: moves => h.handedTo s m ++ (h.move m).handedIn s moves

theorem queuedFor_of_held {h : Hub} {s : Subscriber} {m : Move} {queued : List Event}
    (held : (h.move m).lanes.heldFor s = h.lanes.heldFor s ++ queued) :
    h.queuedFor s m = queued := by
  unfold queuedFor
  rw [held, List.drop_left]

theorem queuedFor_finish (h : Hub) (s : Subscriber) (lane : Nat) (panicked : Bool) :
    h.queuedFor s (.finish lane panicked) = [] :=
  List.drop_eq_nil_of_le (h.lanes.heldFor_finish lane panicked s).length_le

theorem Routed.queuedFor_eq {h : Hub} {m : Move} {speeches : List Speech}
    (routed : Routed h m speeches) (goesOn : m.finishes = false) (s : Subscriber) :
    h.queuedFor s m = toldTo h.registry s (h.announcements m) ++
      toldTo (h.audience m) s (speeches.flatMap Speech.events) := by
  obtain ⟨left, _, same, held⟩ := routed.told s
  rw [same goesOn, List.append_assoc] at held
  exact queuedFor_of_held held

theorem audience_cases (h : Hub) (m : Move) :
    h.audience m = h.entering m ∨ h.audience m = (h.move m).registry := by
  cases m with
  | stop => exact .inl rfl
  | subscribeTo site key name => exact .inl rfl
  | beginRead site key timeout => exact .inl rfl
  | _ => exact .inr rfl

theorem entering_reader {h : Hub} {m : Move} {index : Nat} (begun : index < h.reads.length)
    {key : Identifier} :
    (key, Subscriber.reader index) ∈ (h.entering m).filtered ↔
      (key, Subscriber.reader index) ∈ h.registry.filtered := by
  cases m with
  | subscribeTo site wanted name =>
    exact Registry.mem_subscribeTo.trans (or_iff_left fun same => by cases same)
  | beginRead site wanted timeout =>
    refine Registry.mem_subscribeTo.trans (or_iff_left fun same => ?_)
    have last := Subscriber.reader.inj (Prod.mk.inj same).2
    omega
  | _ => exact Iff.rfl

theorem entering_unfiltered (h : Hub) (m : Move) :
    (h.entering m).unfiltered = h.registry.unfiltered := by
  cases m with
  | subscribeTo site key name => exact Registry.subscribeTo_unfiltered _ _ _
  | beginRead site key timeout => exact Registry.subscribeTo_unfiltered _ _ _
  | _ => rfl

theorem mem_entering {h : Hub} {entry : Identifier × Subscriber}
    (entered : entry ∈ h.registry.filtered) (m : Move) : entry ∈ (h.entering m).filtered := by
  cases m with
  | subscribeTo site key name => exact Registry.mem_subscribeTo.mpr (.inl entered)
  | beginRead site key timeout => exact Registry.mem_subscribeTo.mpr (.inl entered)
  | _ => exact entered

theorem IsTold.entering {h : Hub} {s : Subscriber} {i : Identifier} (told : IsTold h.registry s i)
    (m : Move) : IsTold (h.entering m) s i := by
  unfold IsTold
  rw [entering_unfiltered]
  exact told.imp_right fun ⟨key, entered, agree⟩ => ⟨key, mem_entering entered m, agree⟩

theorem isTold_entering_reader {h : Hub} {m : Move} {index : Nat} (begun : index < h.reads.length)
    {i : Identifier} (told : IsTold (h.entering m) (.reader index) i) :
    IsTold h.registry (.reader index) i := by
  unfold IsTold at told
  rw [entering_unfiltered] at told
  exact told.imp_right fun ⟨key, entered, agree⟩ => ⟨key, (entering_reader begun).mp entered, agree⟩

theorem contains_entering_reader {h : Hub} {m : Move} {index : Nat} (begun : index < h.reads.length)
    (entered : (h.entering m).contains (.reader index) = true) :
    h.registry.contains (.reader index) = true := by
  rw [Registry.contains_iff] at entered ⊢
  rw [entering_unfiltered] at entered
  exact entered.imp_right fun ⟨key, listed⟩ => ⟨key, (entering_reader begun).mp listed⟩

theorem told_of_queuedFor {h : Hub} (wired : h.Wired) {m : Move} {s : Subscriber} {event : Event}
    (queued : event ∈ h.queuedFor s m) :
    IsTold (h.entering m) s event.identifier ∨ IsTold (h.move m).registry s event.identifier := by
  cases goesOn : m.finishes with
  | true =>
    cases m with
    | finish lane panicked =>
      rw [queuedFor_finish] at queued
      cases queued
    | _ => cases goesOn
  | false =>
    obtain ⟨speeches, routed⟩ := (move_carried wired m).routed
    rw [routed.queuedFor_eq goesOn] at queued
    rcases List.mem_append.mp queued with announced | said
    · have told := of_decide_eq_true (List.mem_filter.mp announced).2
      exact .inl (told.entering m)
    · have told := of_decide_eq_true (List.mem_filter.mp said).2
      rcases h.audience_cases m with before | after
      · exact .inl (before ▸ told)
      · exact .inr (after ▸ told)

/-- What the lanes of a hub rest on: routing is in order, readers are reads under way, whoever has
an open lane has an entry, no lane is kept without use, and nothing waits for a read that is yet to
begin. -/
structure Regular (h : Hub) : Prop where
  wired : h.Wired
  registered : h.Registered
  housed : h.Housed
  tidy : h.lanes.Tidy
  early : ∀ index, h.reads.length ≤ index → h.lanes.heldFor (.reader index) = []

theorem Registered.absent {h : Hub} (registered : h.Registered) {index : Nat}
    (early : h.reads.length ≤ index) : IsAbsent h.registry (.reader index) := by
  refine ⟨registered.filtered index, ?_⟩
  intro key entered
  obtain ⟨read, awaits, _⟩ := registered.enrolled key index entered
  have at_index := awaits.at_index
  rw [List.getElem?_eq_none early] at at_index
  cases at_index

theorem Regular.lanesOf_eq_nil {h : Hub} (regular : h.Regular) {index : Nat}
    (early : h.reads.length ≤ index) : h.lanes.lanesOf (.reader index) = [] := by
  refine regular.tidy.lanesOf_eq_nil ?_ (regular.early index early)
  intro isOpen
  obtain ⟨unlisted, keyless⟩ := regular.registered.absent early
  rcases Registry.contains_iff.mp (regular.housed _ isOpen) with listed | ⟨key, entered⟩
  · exact unlisted listed
  · exact keyless key entered

theorem move_reads_le {h : Hub} (orderly : h.Orderly) (m : Move) :
    h.reads.length ≤ (h.move m).reads.length := by
  cases move_enrolment orderly m with
  | kept entries answered length => exact Nat.le_of_eq length.symm
  | begun read pending reads registry =>
    rw [reads, List.length_append]
    exact Nat.le_add_right _ _
  | refused read finished reads registry =>
    rw [reads, List.length_append]
    exact Nat.le_add_right _ _
  | ended at_index finished reads registry =>
    have same : (h.move m).reads.length = h.reads.length := by rw [reads, List.length_set]
    exact Nat.le_of_eq same.symm
  | dismissed dismisses fewer reads => exact Nat.le_of_eq (congrArg List.length reads.symm)

theorem absent_entering {h : Hub} (orderly : h.Orderly) {m : Move} {index : Nat}
    (absent : IsAbsent h.registry (.reader index)) (early : (h.move m).reads.length ≤ index) :
    IsAbsent (h.entering m) (.reader index) := by
  cases m with
  | subscribeTo site key name => exact absent.subscribeTo (s := .listener name) nofun key
  | beginRead site key timeout =>
    have bounded : ∀ live ∈ h.sessions, live.source < h.sources.length :=
      fun live member => orderly.bounded member
    have begins := beginRead_begins bounded site key timeout
    have longer : (h.move (.beginRead site key timeout)).reads.length = h.reads.length + 1 := by
      change (h.beginRead site key timeout).reads.length = _
      generalize h.beginRead site key timeout = after at begins ⊢
      cases begins <;> exact List.length_append
    refine absent.subscribeTo (fun same => ?_) key
    have begun := Subscriber.reader.inj same
    omega
  | _ => exact absent

theorem move_regular {h : Hub} (regular : h.Regular) (m : Move) : (h.move m).Regular := by
  have orderly := regular.wired.orderly
  have registered := move_registered orderly regular.registered m
  refine ⟨move_wired regular.wired m, registered,
    move_housed regular.wired regular.registered regular.housed m, ?_, ?_⟩
  · obtain ⟨steps, lanes⟩ := move_lanes regular.wired regular.registered m
    rw [lanes]
    exact Lanes.run_induct Lanes.Tidy (fun _ step tidy => Lanes.step_tidy tidy step) regular.tidy
      steps
  · intro index early
    have before : h.reads.length ≤ index := Nat.le_trans (move_reads_le orderly m) early
    have absent := regular.registered.absent before
    have audience : IsAbsent (h.audience m) (.reader index) := by
      rcases h.audience_cases m with same | after
      · rw [same]
        exact absent_entering orderly absent early
      · exact after ▸ registered.absent early
    have fewer := move_unheard regular.wired (absent.deaf _) audience
    rw [regular.early index before] at fewer
    exact List.sublist_nil.mp fewer

theorem run_regular {h : Hub} (regular : h.Regular) (moves : List Move) :
    (h.run moves).Regular := by
  induction moves generalizing h with
  | nil => exact regular
  | cons m moves ih => exact ih (move_regular regular m)

theorem fresh_regular (config : Config) : (fresh config).Regular :=
  ⟨run_wired config [], run_registered config [], run_housed config [], Lanes.empty_tidy,
    fun _ _ => rfl⟩

/-- A subscriber has one lane at most, which is open as long as it has an entry. -/
def HasOneLane (h : Hub) (s : Subscriber) : Prop :=
  Lane.Single (h.registry.contains s = true) (h.lanes.lanesOf s)

theorem IsTending.happens {r : Registry Identifier Subscriber} {step : Lanes.Step Subscriber}
    (tending : IsTending r step) (l : Lanes Subscriber) (s : Subscriber) :
    l.happens s step = none ∨
      (∃ event, l.happens s step = some (.queued event) ∧ r.contains s = true) ∨
      l.happens s step = some .closed ∧ r.contains s = false := by
  cases tending with
  | @deliver t event told =>
    by_cases own : t = s
    · subst own
      exact .inr (.inl ⟨event, if_pos rfl, told⟩)
    · exact .inl (if_neg own)
  | @close t gone =>
    by_cases own : t = s
    · subst own
      exact .inr (.inr ⟨if_pos rfl, gone⟩)
    · exact .inl (if_neg own)
  | closeAll empty => exact .inr (.inr ⟨rfl, empty s⟩)

theorem IsTending.aside {r : Registry Identifier Subscriber} {step : Lanes.Step Subscriber}
    (tending : IsTending r step) {l : Lanes Subscriber} {s : Subscriber} {happening : Happening}
    (happens : l.happens s step = some happening) : happening.isWork = false := by
  rcases tending.happens l s with nothing | ⟨event, queued, _⟩ | ⟨closed, _⟩
  · cases nothing.symm.trans happens
  · cases queued.symm.trans happens
    rfl
  · cases closed.symm.trans happens
    rfl

theorem Tends.queues {r : Registry Identifier Subscriber} {before after : Lanes Subscriber}
    (tends : Tends r before after) (tidy : before.Tidy) (s : Subscriber) :
    after.Tidy ∧ after.underWayFor s = before.underWayFor s ∧
      ∃ queued, after.heldFor s = before.heldFor s ++ queued ∧
        after.waitingFor s = before.waitingFor s ++ queued := by
  obtain ⟨steps, rfl, tended⟩ := tends
  induction steps generalizing before with
  | nil => exact ⟨tidy, rfl, [], (List.append_nil _).symm, (List.append_nil _).symm⟩
  | cons step steps ih =>
    obtain ⟨now, later⟩ := List.forall_mem_cons.mp tended
    have shifts := Lanes.step_shifts tidy s step
    have quiet : Happening.handedIn (before.happens s step).toList = [] := by
      cases happens : before.happens s step with
      | none => rfl
      | some happening =>
        have aside := now.aside happens
        cases happening with
        | handed event => cases aside
        | _ => rfl
    have unfinished : ∀ index panicked, step ≠ .finish index panicked := by
      rintro index panicked rfl
      cases now
    have held := Lanes.heldFor_step tidy.toSound s unfinished
    have waiting := Lanes.shifts_waiting shifts quiet
    have underWay := Lanes.shifts_underWay shifts fun _ => now.aside
    obtain ⟨still, underWay', queued, held', waiting'⟩ := ih (Lanes.step_tidy tidy step) later
    refine ⟨still, underWay'.trans underWay,
      Happening.queuedIn (before.happens s step).toList ++ queued, ?_, ?_⟩
    · rw [← List.append_assoc, ← held]
      exact held'
    · rw [← List.append_assoc]
      exact waiting'.trans (congrArg (· ++ queued) waiting)

theorem Tends.single_lane {r : Registry Identifier Subscriber} {before after : Lanes Subscriber}
    (tends : Tends r before after) (tidy : before.Tidy) {s : Subscriber}
    (single : Lane.Single (r.contains s = true) (before.lanesOf s)) :
    Lane.Single (r.contains s = true) (after.lanesOf s) := by
  obtain ⟨steps, rfl, tended⟩ := tends
  induction steps generalizing before with
  | nil => exact single
  | cons step steps ih =>
    obtain ⟨now, later⟩ := List.forall_mem_cons.mp tended
    have happens := now.happens before s
    refine ih (Lanes.step_tidy tidy step) ((Lanes.step_shifts tidy s step).single ?_ ?_ single) later
    · intro event told
      rcases happens with nothing | ⟨_, _, entered⟩ | ⟨closed, _⟩
      · cases nothing.symm.trans told
      · exact entered
      · cases closed.symm.trans told
    · intro shut entered
      rcases happens with nothing | ⟨_, queued, _⟩ | ⟨_, gone⟩
      · cases nothing.symm.trans shut
      · cases queued.symm.trans shut
      · cases gone.symm.trans entered

theorem move_queues {h : Hub} (regular : h.Regular) {m : Move} (aside : m.isWork = false)
    (s : Subscriber) :
    (h.move m).lanes.underWayFor s = h.lanes.underWayFor s ∧
      (h.move m).lanes.waitingFor s = h.lanes.waitingFor s ++ h.queuedFor s m := by
  obtain ⟨⟨between, first, second⟩, _⟩ := move_tended regular.wired regular.registered aside
  obtain ⟨still, underWay, queued, held, waiting⟩ := first.queues regular.tidy s
  obtain ⟨_, underWay', more, held', waiting'⟩ := second.queues still s
  have all : h.queuedFor s m = queued ++ more := by
    apply queuedFor_of_held
    rw [held', held, List.append_assoc]
  refine ⟨underWay'.trans underWay, ?_⟩
  rw [all, waiting', waiting, List.append_assoc]

theorem handedTo_aside (h : Hub) (s : Subscriber) {m : Move} (aside : m.isWork = false) :
    h.handedTo s m = [] := by
  cases m with
  | takeUp lane => cases aside
  | _ => rfl

/-- A move leaves a subscriber with one lane at most, and hands over from its front what is queued
for the subscriber. -/
structure KeepsLane (h : Hub) (s : Subscriber) (m : Move) : Prop where
  lane : (h.move m).HasOneLane s
  order : h.handedTo s m ++ (h.move m).lanes.waitingFor s = h.lanes.waitingFor s ++ h.queuedFor s m

theorem takeUp_keepsLane {h : Hub} (regular : h.Regular) (lane : Nat) {s : Subscriber}
    (single : h.HasOneLane s) : h.KeepsLane s (.takeUp lane) := by
  have tidy := regular.tidy
  obtain ⟨_, _, taken, _⟩ := h.takeUp_eq lane
  have registry : (h.move (.takeUp lane)).registry = h.registry := (congrArg Hub.registry taken :)
  have lanes : (h.move (.takeUp lane)).lanes = h.lanes.step (.take lane) := h.takeUp_step lane
  have unfinished : ∀ index panicked, Lanes.Step.take lane ≠
      (.finish index panicked : Lanes.Step Subscriber) := nofun
  have queued : h.queuedFor s (.takeUp lane) =
      Happening.queuedIn (h.lanes.happens s (.take lane)).toList := by
    apply queuedFor_of_held
    rw [lanes]
    exact Lanes.heldFor_step tidy.toSound s unfinished
  refine ⟨?_, ?_⟩
  · unfold HasOneLane
    rw [registry, lanes]
    refine (Lanes.step_shifts tidy s (.take lane)).single_of_work ?_ single
    intro happening happens
    obtain ⟨event, rfl⟩ := Lanes.happens_take_handed happens
    rfl
  · rw [queued, lanes]
    exact Lanes.step_in_order tidy (Lanes.isInTurn_of_single single.one (.take lane))

theorem finish_keepsLane {h : Hub} (regular : h.Regular) (lane : Nat) (panicked : Bool)
    {s : Subscriber} (single : h.HasOneLane s) : h.KeepsLane s (.finish lane panicked) := by
  have shifts := Lanes.step_shifts regular.tidy s (.finish lane panicked)
  have ends {happening : Happening}
      (happens : h.lanes.happens s (.finish lane panicked) = some happening) :
      ∃ event, happening = .ended event panicked := Lanes.happens_finish_ended happens
  have quiet : Happening.handedIn (h.lanes.happens s (.finish lane panicked)).toList = [] ∧
      Happening.queuedIn (h.lanes.happens s (.finish lane panicked)).toList = [] := by
    cases happening : h.lanes.happens s (.finish lane panicked) with
    | none => exact ⟨rfl, rfl⟩
    | some mine =>
      obtain ⟨event, rfl⟩ := ends happening
      exact ⟨rfl, rfl⟩
  refine ⟨shifts.single_of_work ?_ single, ?_⟩
  · intro happening happens
    obtain ⟨event, rfl⟩ := ends happens
    rfl
  · have waiting := Lanes.shifts_waiting shifts quiet.1
    rw [quiet.2] at waiting
    rw [queuedFor_finish]
    exact waiting

/-- A subscriber that a move gives no first entry keeps its lane. -/
theorem move_keepsLane {h : Hub} (regular : h.Regular) {m : Move} {s : Subscriber}
    (asked : (h.entering m).contains s = true → h.registry.contains s = true)
    (early : (h.move m).registry.contains s = true → h.registry.contains s = true)
    (single : h.HasOneLane s) : h.KeepsLane s m := by
  cases work : m.isWork with
  | false =>
    obtain ⟨⟨between, first, second⟩, _⟩ := move_tended regular.wired regular.registered work
    obtain ⟨still, _⟩ := first.queues regular.tidy s
    -- the lane stays as long as the entry from before, so it is there for the entry that is left
    have halfway := first.single_lane regular.tidy (single.imp asked)
    refine ⟨second.single_lane still (halfway.imp fun left => ?_), ?_⟩
    · exact h.contains_entering (early left) m
    rw [handedTo_aside h s work, (move_queues regular work s).2]
    rfl
  | true =>
    cases m with
    | takeUp lane => exact takeUp_keepsLane regular lane single
    | finish lane panicked => exact finish_keepsLane regular lane panicked single
    | _ => cases work

/-- Who subscribes again before the unplugging of its device is announced is handed what the new
session says first, as that was queued first. -/
example :
    let site := quietSite [⟨none, "a"⟩]
    let identifier : Identifier := .ofPort none "a"
    let moves := [.subscribeTo site (.ofPortName "a") "x", .disappeared ⟨none, "a"⟩,
      .subscribeTo site (.ofPortName "a") "x", .report 1 (.error "noise"), .notify 0, .takeUp 0,
      .finish 0 false, .takeUp 0]
    (fresh {}).handedIn (.listener "x") moves =
      [.fault ⟨identifier, .otherReason, "noise", none⟩, .fault (.unplugged identifier)] := by
  decide

end MeterHub.Hub
