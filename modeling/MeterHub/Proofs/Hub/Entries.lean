import MeterHub.Proofs.Hub.Enrolment

/-!
Where the entries of a registry come from. A listener is entered by its own subscriptions alone and
a read by its beginning; no other move makes an entry. Hence nobody is ever entered twice without a
filter, and whoever has left stays away until it subscribes again.
-/

set_option autoImplicit false
set_option relaxedAutoImplicit false

namespace MeterHub

/-- Whether a listener asks for an entry in a move. -/
def Move.enters (name : String) : Move → Bool
  | .subscribe other | .subscribeTo _ _ other => other == name
  | _ => false

namespace Hub

/-- A subscriber has no entry. -/
def IsAbsent (r : Registry Identifier Subscriber) (s : Subscriber) : Prop :=
  s ∉ r.unfiltered ∧ ∀ key, (key, s) ∉ r.filtered

theorem IsAbsent.subscribeTo {r : Registry Identifier Subscriber} {s t : Subscriber}
    (absent : IsAbsent r t) (apart : s ≠ t) (key : Identifier) :
    IsAbsent (r.subscribeTo key s).2 t := by
  refine ⟨?_, ?_⟩
  · rw [Registry.subscribeTo_unfiltered]
    exact absent.1
  · intro wanted entered
    rcases Registry.mem_subscribeTo.mp entered with old | new
    · exact absent.2 wanted old
    · exact apart (Prod.mk.inj new).2.symm

/-- What a move may do to the entries of a registry. It makes one at most. -/
inductive Enters (m : Move) (r r' : Registry Identifier Subscriber) : Prop
  | unfiltered {name : String} (asked : m.enters name = true)
      (registry : r' = (r.subscribe (.listener name)).2)
  | filtered {name : String} {key : Identifier} (asked : m.enters name = true)
      (registry : r' = (r.subscribeTo key (.listener name)).2)
  | read {index : Nat} {key : Identifier} (begins : m.beginsRead = true)
      (registry : r' = (r.subscribeTo key (.reader index)).2)
  | fewer (unfiltered : r'.unfiltered.Sublist r.unfiltered)
      (filtered : r'.filtered.Sublist r.filtered)

namespace Enters

variable {m : Move} {r r' : Registry Identifier Subscriber}

theorem of_eq (registry : r' = r) : Enters m r r' := by
  rw [registry]
  exact .fewer (.refl _) (.refl _)

theorem once (enters : Enters m r r') (before : r.unfiltered.Nodup) : r'.unfiltered.Nodup := by
  cases enters with
  | @unfiltered name asked registry =>
    have added : r'.unfiltered = Distinct.add r.unfiltered (.listener name) := by
      rw [registry]
      unfold Registry.subscribe Distinct.add
      split <;> rfl
    rw [added]
    exact Distinct.nodup_add before _
  | filtered asked registry =>
    rw [registry, Registry.subscribeTo_unfiltered]
    exact before
  | read begins registry =>
    rw [registry, Registry.subscribeTo_unfiltered]
    exact before
  | fewer unfiltered filtered => exact before.sublist unfiltered

theorem absent (enters : Enters m r r') {name : String} (others : m.enters name = false)
    (before : IsAbsent r (.listener name)) : IsAbsent r' (.listener name) := by
  have ⟨unlisted, keyless⟩ := before
  have other {asking : String} (asked : m.enters asking = true) :
      Subscriber.listener asking ≠ .listener name := by
    intro same
    rw [Subscriber.listener.inj same, others] at asked
    cases asked
  cases enters with
  | @unfiltered asking asked registry =>
    rw [registry]
    unfold Registry.subscribe
    split
    · exact ⟨unlisted, keyless⟩
    · refine ⟨?_, keyless⟩
      intro listed
      rcases List.mem_append.mp listed with old | new
      · exact unlisted old
      · exact other asked (List.mem_singleton.mp new).symm
  | @filtered asking key asked registry =>
    rw [registry]
    exact before.subscribeTo (other asked) key
  | @read index key begins registry =>
    rw [registry]
    exact before.subscribeTo (s := .reader index) nofun key
  | fewer unfiltered filtered =>
    exact ⟨fun listed => unlisted (unfiltered.subset listed),
      fun key entered => keyless key (filtered.subset entered)⟩

end Enters

theorem without_absent (r : Registry Identifier Subscriber) (s : Subscriber) :
    IsAbsent (r.without s) s := by
  constructor
  · simp [Registry.without]
  · intro key entered
    exact (Registry.mem_without.mp entered).2 rfl

theorem without_enters (m : Move) (r : Registry Identifier Subscriber) (s : Subscriber) :
    Enters m r (r.without s) := .fewer List.filter_sublist List.filter_sublist

theorem unsubscribeFrom_enters (m : Move) (r : Registry Identifier Subscriber) (key : Identifier)
    (s : Subscriber) : Enters m r (r.unsubscribeFrom key s).2 :=
  .fewer (.refl _) List.filter_sublist

theorem subscribeTo_enters (h : Hub) (site : Site) (key : Identifier) (name : String) :
    Enters (.subscribeTo site key name) h.registry
      (h.subscribeTo site key (.listener name)).2.registry := by
  have attaches := attach_attaches h site key (.listener name)
  have asked : (Move.subscribeTo site key name).enters name = true := beq_self_eq_true name
  rw [subscribeTo_eq]
  generalize (h.attach site key (.listener name)).1 = result at attaches
  generalize (h.attach site key (.listener name)).2 = after at attaches ⊢
  cases attaches with
  | served found => exact .filtered asked rfl
  | shared unserved resolved found => exact .filtered asked rfl
  | opened unserved resolved free defined granted started => exact .filtered asked rfl
  | refused unserved => exact .of_eq rfl
  | unstarted unserved resolved granted refused => exact .of_eq rfl

theorem beginRead_enters {h : Hub} (orderly : h.Orderly) (site : Site) (key : Identifier)
    (timeout : Option Span) :
    Enters (.beginRead site key timeout) h.registry (h.beginRead site key timeout).registry := by
  have bounded : ∀ live ∈ h.sessions, live.source < h.sources.length :=
    fun live member => orderly.bounded member
  have begins := beginRead_begins bounded site key timeout
  generalize h.beginRead site key timeout = after at begins ⊢
  cases begins with
  | served lookups member => exact .read rfl rfl
  | opened resolved free defined granted started => exact .read rfl rfl
  | refused read finished => exact .of_eq rfl
  | unstarted read finished started stopped idle => exact .of_eq rfl

theorem endRead_enters (h : Hub) (index : Nat) :
    Enters (.endRead index) h.registry (h.endRead index).registry := by
  rcases h.endRead_cases index with nothing | ⟨read, at_index, pending⟩
  · exact .of_eq (congrArg Hub.registry nothing)
  · obtain ⟨_, ended⟩ := endRead_eq at_index pending
    rw [ended]
    exact unsubscribeFrom_enters _ h.registry read.key _

theorem notify_enters (h : Hub) (index : Nat) :
    Enters (.notify index) h.registry (h.notify index).registry := by
  cases noted : h.notices[index]? with
  | none => exact .of_eq (congrArg Hub.registry (notify_absent noted))
  | some i =>
    obtain ⟨_, _, _, notified⟩ := notify_eq noted
    rw [notified]
    exact .fewer List.filter_sublist List.filter_sublist

theorem stop_enters (h : Hub) : Enters .stop h.registry h.stop.registry := by
  by_cases running : h.running = true
  · obtain ⟨_, stopped⟩ := stop_eq running
    rw [stopped]
    exact .fewer (List.nil_sublist _) (List.nil_sublist _)
  · exact .of_eq (congrArg Hub.registry (if_neg running))

theorem discard_enters (h : Hub) : Enters .discard h.registry (h.move .discard).registry := by
  by_cases held : h.isHeld = true
  · exact .of_eq (congrArg Hub.registry (if_pos held))
  · have given : h.move .discard = h.discard := if_neg held
    rw [given]
    exact .fewer (List.nil_sublist _) (List.nil_sublist _)

theorem move_enters {h : Hub} (orderly : h.Orderly) (m : Move) :
    Enters m h.registry (h.move m).registry := by
  cases m with
  | start site => exact .of_eq (h.start_readers site).1
  | stop => exact stop_enters h
  | subscribe name => exact .unfiltered (beq_self_eq_true name) rfl
  | unsubscribe name =>
    obtain ⟨_, unsubscribed⟩ := h.unsubscribe_eq (.listener name)
    change Enters _ h.registry (h.unsubscribe (.listener name)).registry
    rw [unsubscribed]
    exact without_enters _ h.registry _
  | subscribeTo site key name => exact subscribeTo_enters h site key name
  | unsubscribeFrom key name =>
    obtain ⟨_, unsubscribed⟩ := h.unsubscribeFrom_eq key (.listener name)
    change Enters _ h.registry (h.unsubscribeFrom key (.listener name)).registry
    rw [unsubscribed]
    exact unsubscribeFrom_enters _ h.registry key _
  | appeared site port => exact .of_eq (h.appeared_readers site port false).1
  | disappeared port => exact .of_eq (h.disappeared_readers port).1
  | beginRead site key timeout => exact beginRead_enters orderly site key timeout
  | endRead index => exact endRead_enters h index
  | report source signal =>
    obtain ⟨_, reported⟩ := report_eq orderly.distinct source signal
    change Enters _ h.registry (h.report source signal).registry
    rw [reported]
    exact .of_eq rfl
  | notify index => exact notify_enters h index
  | poll ports => exact .of_eq rfl
  | refill => exact .of_eq rfl
  | consume site => exact .of_eq (h.consume_readers site).1
  | takeUp lane =>
    obtain ⟨_, _, taken, _⟩ := h.takeUp_eq lane
    change Enters _ h.registry (h.takeUp lane).registry
    rw [taken]
    exact .of_eq rfl
  | finish lane panicked => exact .of_eq rfl
  | discard => exact discard_enters h

end Hub

end MeterHub
