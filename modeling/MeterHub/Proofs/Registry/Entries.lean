import Mathlib.Data.List.Basic
import Mathlib.Data.List.Induction
import Mathlib.Data.List.Nodup
import MeterHub.Proofs.Registry.Interest
import MeterHub.Registry.Script

/-!
A registry as a set of entries. An entry is a subscriber without a filter or under a key, and no
entry is there twice. Whatever is asked of a registry in whatever order, its two lists hold just the
entries that were made and not taken back, in the order in which they were made, and each answer can
be read off them.
-/

set_option autoImplicit false
set_option relaxedAutoImplicit false

namespace MeterHub

theorem Distinct.addAll_ordered {α : Type} [DecidableEq α] (items more : List α) :
    ∃ others, addAll items more = items ++ others ∧ (∀ a ∈ others, a ∈ more) ∧
      others.Pairwise fun a b => more.idxOf a < more.idxOf b := by
  induction more using List.reverseRecOn with
  | nil => exact ⟨[], (List.append_nil items).symm, List.forall_mem_nil _, .nil⟩
  | append_singleton more a ih =>
    obtain ⟨others, appended, among, ordered⟩ := ih
    have last : addAll items (more ++ [a]) = add (items ++ others) a := by
      rw [← appended]
      exact List.foldl_append
    have still : others.Pairwise fun b c => (more ++ [a]).idxOf b < (more ++ [a]).idxOf c := by
      apply ordered.imp_of_mem
      intro b c left right before
      rw [List.idxOf_append_of_mem (among b left), List.idxOf_append_of_mem (among c right)]
      exact before
    have member : ∀ b ∈ others, b ∈ more ++ [a] :=
      fun b there => List.mem_append_left _ (among b there)
    by_cases old : a ∈ items ++ others
    · refine ⟨others, ?_, member, still⟩
      rw [last, add, if_pos (List.contains_iff_mem.mpr old)]
    · refine ⟨others ++ [a], ?_, ?_, ?_⟩
      · rw [last, add, if_neg (mt List.contains_iff_mem.mp old), List.append_assoc]
      · intro b there
        rcases List.mem_append.mp there with earlier | only
        · exact member b earlier
        · exact List.mem_append_right _ only
      · -- an item that is new now has not occurred before, so its first place is the last one
        have new : a ∉ more := by
          intro there
          apply old
          rw [← appended, mem_addAll]
          exact .inr there
        rw [List.pairwise_append]
        refine ⟨still, List.pairwise_singleton _ _, ?_⟩
        intro b left c only
        rw [List.mem_singleton.mp only, List.idxOf_append_of_mem (among b left),
          List.idxOf_append_of_notMem new]
        exact Nat.lt_of_lt_of_le (List.idxOf_lt_length_of_mem (among b left)) (Nat.le_add_right _ _)

theorem findIdx_lt_of_filterMap {α β : Type} [DecidableEq β] {f : α → Option β} {items : List α}
    {a b : β} (before : (items.filterMap f).idxOf a < (items.filterMap f).idxOf b) :
    (items.findIdx fun item => f item = some a) < items.findIdx fun item => f item = some b := by
  induction items with
  | nil => cases before
  | cons item items ih =>
    rw [List.findIdx_cons, List.findIdx_cons]
    cases found : f item with
    | none =>
      rw [List.filterMap_cons_none found] at before
      exact Nat.succ_lt_succ (ih before)
    | some c =>
      rw [List.filterMap_cons_some found, List.idxOf_cons, List.idxOf_cons] at before
      have other : c ≠ b := by
        rintro rfl
        simp at before
      by_cases first : c = a
      · simp [first, first ▸ other]
      · have later : (items.filterMap f).idxOf a < (items.filterMap f).idxOf b := by
          simpa [cond_eq_ite, first, other] using before
        simpa [first, other] using ih later

theorem filterMap_filter_eq {α β : Type} {f : α → Option β} {p : α → Bool} {q : β → Bool}
    (same : ∀ a b, f a = some b → p a = q b) (items : List α) :
    (items.filter p).filterMap f = (items.filterMap f).filter q := by
  rw [List.filterMap_filter, List.filter_filterMap]
  apply List.filterMap_congr
  intro a _
  cases found : f a with
  | none => simp
  | some b => simp [same a b found, Option.filter]

namespace Registry

/-- An entry: a subscriber without a filter, or under a key. -/
structure Entry (κ σ : Type) where
  subscriber : σ
  key : Option κ
deriving DecidableEq

namespace Entry

variable {κ σ : Type}

def unfiltered? (e : Entry κ σ) : Option σ :=
  match e.key with
  | none => some e.subscriber
  | some _ => none

def filtered? (e : Entry κ σ) : Option (κ × σ) := e.key.map fun key => (key, e.subscriber)

@[simp]
theorem unfiltered?_alone (s : σ) : unfiltered? (⟨s, none⟩ : Entry κ σ) = some s := rfl

@[simp]
theorem unfiltered?_under (s : σ) (key : κ) : unfiltered? ⟨s, some key⟩ = none := rfl

@[simp]
theorem filtered?_alone (s : σ) : filtered? (⟨s, none⟩ : Entry κ σ) = none := rfl

@[simp]
theorem filtered?_under (s : σ) (key : κ) : filtered? ⟨s, some key⟩ = some (key, s) := rfl

/-- Whether an entry is under a key that counts. -/
def isUnder (counts : κ → Bool) (e : Entry κ σ) : Bool := e.key.any counts

/-- The entries after a request. -/
def after [DecidableEq κ] [DecidableEq σ] (agrees : κ → κ → Bool) (entries : List (Entry κ σ)) :
    Order κ σ → List (Entry κ σ)
  | .subscribe s => Distinct.add entries ⟨s, none⟩
  | .subscribeTo key s => Distinct.add entries ⟨s, some key⟩
  | .unsubscribe s => entries.filter fun e => e.subscriber ≠ s
  | .unsubscribeUnfiltered s => entries.filter fun e => e ≠ ⟨s, none⟩
  | .unsubscribeFrom key s => entries.filter fun e => e ≠ ⟨s, some key⟩
  | .unsubscribeMatching probe s =>
    entries.filter fun e => ¬(e.subscriber = s ∧ e.isUnder (agrees · probe) = true)
  | .clear => []
  | .interested _ _ | .keysOf _ | .contains _ | .inspect => entries

/-- The entries after some requests, where there are none at first. -/
def afterAll [DecidableEq κ] [DecidableEq σ] (agrees : κ → κ → Bool) (orders : List (Order κ σ)) :
    List (Entry κ σ) :=
  orders.foldl (after agrees) []

end Entry

variable {κ σ : Type}

/-- A registry whose lists hold some entries in their order, none of them twice. -/
structure Holds (r : Registry κ σ) (entries : List (Entry κ σ)) : Prop where
  once : entries.Nodup
  unfiltered : r.unfiltered = entries.filterMap Entry.unfiltered?
  filtered : r.filtered = entries.filterMap Entry.filtered?

namespace Holds

variable {r : Registry κ σ} {entries : List (Entry κ σ)}

theorem mem_unfiltered (holds : r.Holds entries) {s : σ} :
    s ∈ r.unfiltered ↔ ⟨s, none⟩ ∈ entries := by
  rw [holds.unfiltered, List.mem_filterMap]
  constructor
  · rintro ⟨⟨t, key⟩, member, found⟩
    cases key with
    | none => exact Option.some.inj found ▸ member
    | some key => cases found
  · exact fun member => ⟨_, member, rfl⟩

theorem mem_filtered (holds : r.Holds entries) {key : κ} {s : σ} :
    (key, s) ∈ r.filtered ↔ ⟨s, some key⟩ ∈ entries := by
  rw [holds.filtered, List.mem_filterMap]
  constructor
  · rintro ⟨⟨t, key'⟩, member, found⟩
    cases key' with
    | none => cases found
    | some key' =>
      obtain ⟨rfl, rfl⟩ := Prod.mk.inj (Option.some.inj found)
      exact member
  · exact fun member => ⟨_, member, rfl⟩

theorem unfiltered_nodup (holds : r.Holds entries) : r.unfiltered.Nodup := by
  rw [holds.unfiltered]
  apply holds.once.filterMap
  rintro ⟨s, key⟩ ⟨t, key'⟩ u left right
  cases key <;> cases key' <;> cases left <;> cases right
  rfl

theorem size_eq (holds : r.Holds entries) : r.size = entries.length := by
  unfold size
  rw [holds.unfiltered, holds.filtered]
  clear holds
  induction entries with
  | nil => rfl
  | cons e entries ih =>
    obtain ⟨s, key⟩ := e
    cases key with
    | none =>
      simp only [List.filterMap_cons, Entry.unfiltered?_alone, Entry.filtered?_alone,
        List.length_cons]
      omega
    | some key =>
      simp only [List.filterMap_cons, Entry.unfiltered?_under, Entry.filtered?_under,
        List.length_cons]
      omega

theorem isEmpty_iff (holds : r.Holds entries) : r.isEmpty = true ↔ entries = [] := by
  have length := holds.size_eq
  rw [← List.length_eq_zero_iff, ← length]
  simp [isEmpty, size]

theorem filter (holds : r.Holds entries) {keep : Entry κ σ → Bool} {alone : σ → Bool}
    {under : κ × σ → Bool} (unfiltered : ∀ s, keep ⟨s, none⟩ = alone s)
    (filtered : ∀ key s, keep ⟨s, some key⟩ = under (key, s)) :
    Holds { unfiltered := r.unfiltered.filter alone, filtered := r.filtered.filter under }
      (entries.filter keep) where
  once := holds.once.filter keep
  unfiltered := by
    rw [holds.unfiltered]
    refine (filterMap_filter_eq ?_ entries).symm
    rintro ⟨s, key⟩ t same
    cases key with
    | none => exact Option.some.inj same ▸ unfiltered s
    | some key => cases same
  filtered := by
    rw [holds.filtered]
    refine (filterMap_filter_eq ?_ entries).symm
    rintro ⟨s, key⟩ ⟨key', t⟩ same
    cases key with
    | none => cases same
    | some key =>
      obtain ⟨rfl, rfl⟩ := Prod.mk.inj (Option.some.inj same)
      exact filtered key s

theorem filter_unfiltered (holds : r.Holds entries) {keep : Entry κ σ → Bool} {alone : σ → Bool}
    (unfiltered : ∀ s, keep ⟨s, none⟩ = alone s) (filtered : ∀ key s, keep ⟨s, some key⟩ = true) :
    Holds { r with unfiltered := r.unfiltered.filter alone } (entries.filter keep) := by
  have rest : r.filtered.filter (fun _ => true) = r.filtered := List.filter_true r.filtered
  have removed : Holds { unfiltered := r.unfiltered.filter alone
                         filtered := r.filtered.filter fun _ => true } (entries.filter keep) :=
    holds.filter unfiltered filtered
  rw [rest] at removed
  exact removed

theorem filter_filtered (holds : r.Holds entries) {keep : Entry κ σ → Bool} {under : κ × σ → Bool}
    (unfiltered : ∀ s, keep ⟨s, none⟩ = true)
    (filtered : ∀ key s, keep ⟨s, some key⟩ = under (key, s)) :
    Holds { r with filtered := r.filtered.filter under } (entries.filter keep) := by
  have rest : r.unfiltered.filter (fun _ => true) = r.unfiltered := List.filter_true r.unfiltered
  have removed : Holds { unfiltered := r.unfiltered.filter fun _ => true
                         filtered := r.filtered.filter under } (entries.filter keep) :=
    holds.filter unfiltered filtered
  rw [rest] at removed
  exact removed

theorem concat (holds : r.Holds entries) {e : Entry κ σ} (new : e ∉ entries) :
    Holds { unfiltered := r.unfiltered ++ e.unfiltered?.toList
            filtered := r.filtered ++ e.filtered?.toList } (entries ++ [e]) where
  once := by
    rw [List.nodup_append]
    refine ⟨holds.once, List.nodup_singleton e, ?_⟩
    rintro a member b only rfl
    exact new (List.mem_singleton.mp only ▸ member)
  unfiltered := by
    rw [List.filterMap_append, List.filterMap_cons, holds.unfiltered]
    cases e.unfiltered? <;> rfl
  filtered := by
    rw [List.filterMap_append, List.filterMap_cons, holds.filtered]
    cases e.filtered? <;> rfl

end Holds

variable [DecidableEq σ]

/-- The subscribers with an entry under a key that counts, and where `all` those with an entry
without a filter: each once, the latter first, and the others by their first entry that counts. -/
structure Lists (entries : List (Entry κ σ)) (counts : κ → Bool) (all : Bool)
    (listed : List σ) : Prop where
  once : listed.Nodup
  complete : ∀ s, s ∈ listed ↔
    (all = true ∧ ⟨s, none⟩ ∈ entries) ∨ ∃ key, ⟨s, some key⟩ ∈ entries ∧ counts key = true
  ordered : ∃ others, listed = (if all then entries.filterMap Entry.unfiltered? else []) ++ others ∧
    others.Pairwise fun s t =>
      (entries.findIdx fun e => e.subscriber = s ∧ e.isUnder counts = true) <
        entries.findIdx fun e => e.subscriber = t ∧ e.isUnder counts = true

/-- The keys of a subscriber that count, in the order of its entries under them. -/
def Keeps (entries : List (Entry κ σ)) (counts : κ → Bool) (s : σ) (keys : List κ) : Prop :=
  (keys.map fun key => (⟨s, some key⟩ : Entry κ σ)) =
    entries.filter fun e => e.subscriber = s ∧ e.isUnder counts = true

/-- What a registry tells of itself, where there are some entries. -/
structure Shows (agrees : κ → κ → Bool) (r : Registry κ σ) (entries : List (Entry κ σ)) : Prop where
  once : entries.Nodup
  size : r.size = entries.length
  isEmpty : r.isEmpty = true ↔ entries = []
  contains : ∀ s, r.contains s = true ↔ ∃ e ∈ entries, e.subscriber = s
  keysOf : ∀ s, Keeps entries (fun _ => true) s (r.keysOf s)
  subscribers : Lists entries (fun _ => true) true r.subscribers
  interested : ∀ probe all, Lists entries (agrees · probe) all (r.interested agrees probe all)

/-- What a request is answered, where there are some entries. -/
inductive Answers (agrees : κ → κ → Bool) (entries : List (Entry κ σ)) :
    Order κ σ → Answer κ σ → Prop
  | subscribe {s : σ} {new : Bool} (told : new = true ↔ ⟨s, none⟩ ∉ entries) :
      Answers agrees entries (.subscribe s) (.flag new)
  | subscribeTo {key : κ} {s : σ} {new : Bool} (told : new = true ↔ ⟨s, some key⟩ ∉ entries) :
      Answers agrees entries (.subscribeTo key s) (.flag new)
  | unsubscribe {s : σ} {number : Nat}
      (told : number = (entries.filter fun e => e.subscriber = s).length) :
      Answers agrees entries (.unsubscribe s) (.count number)
  | unsubscribeUnfiltered {s : σ} {there : Bool} (told : there = true ↔ ⟨s, none⟩ ∈ entries) :
      Answers agrees entries (.unsubscribeUnfiltered s) (.flag there)
  | unsubscribeFrom {key : κ} {s : σ} {there : Bool}
      (told : there = true ↔ ⟨s, some key⟩ ∈ entries) :
      Answers agrees entries (.unsubscribeFrom key s) (.flag there)
  | unsubscribeMatching {probe : κ} {s : σ} {keys : List κ}
      (told : Keeps entries (agrees · probe) s keys) :
      Answers agrees entries (.unsubscribeMatching probe s) (.keys keys)
  | interested {probe : κ} {all : Bool} {listed : List σ}
      (told : Lists entries (agrees · probe) all listed) :
      Answers agrees entries (.interested probe all) (.subscribers listed)
  | keysOf {s : σ} {keys : List κ} (told : Keeps entries (fun _ => true) s keys) :
      Answers agrees entries (.keysOf s) (.keys keys)
  | contains {s : σ} {there : Bool} (told : there = true ↔ ∃ e ∈ entries, e.subscriber = s) :
      Answers agrees entries (.contains s) (.flag there)
  | clear {listed : List σ} (told : Lists entries (fun _ => true) true listed) :
      Answers agrees entries .clear (.subscribers listed)
  | inspect {text : String} : Answers agrees entries .inspect (.text text)

namespace Holds

variable {r : Registry κ σ} {entries : List (Entry κ σ)}

theorem contains_iff (holds : r.Holds entries) {s : σ} :
    r.contains s = true ↔ ∃ e ∈ entries, e.subscriber = s := by
  unfold contains
  rw [Bool.or_eq_true, List.contains_iff_mem, holds.mem_unfiltered, List.any_eq_true]
  constructor
  · rintro (member | ⟨⟨key, t⟩, member, same⟩)
    · exact ⟨_, member, rfl⟩
    · exact ⟨_, holds.mem_filtered.mp member, by simpa using same⟩
  · rintro ⟨⟨t, key⟩, member, rfl⟩
    cases key with
    | none => exact .inl member
    | some key => exact .inr ⟨(key, t), holds.mem_filtered.mpr member, by simp⟩

theorem keeps (holds : r.Holds entries) (counts : κ → Bool) (s : σ) :
    Keeps entries counts s
      ((r.filtered.filter fun entry => entry.2 == s && counts entry.1).map (·.1)) := by
  unfold Keeps
  rw [holds.filtered]
  clear holds
  induction entries with
  | nil => rfl
  | cons e entries ih =>
    obtain ⟨t, key⟩ := e
    cases key with
    | none =>
      rw [List.filterMap_cons_none rfl, ih, List.filter_cons_of_neg]
      simp [Entry.isUnder]
    | some key =>
      rw [List.filterMap_cons_some (Entry.filtered?_under t key)]
      by_cases hit : t = s ∧ counts key = true
      · obtain ⟨rfl, counted⟩ := hit
        rw [List.filter_cons_of_pos (by simp [counted]),
          List.filter_cons_of_pos (by simp [Entry.isUnder, counted]), List.map_cons, List.map_cons,
          ih]
      · rw [List.filter_cons_of_neg (by simpa using hit), List.filter_cons_of_neg, ih]
        rw [decide_eq_true_iff]
        exact hit

theorem lists (holds : r.Holds entries) (counts : κ → Bool) (all : Bool) :
    Lists entries counts all (Distinct.addAll (if all then r.unfiltered else [])
      ((r.filtered.filter fun entry => counts entry.1).map (·.2))) := by
  have found (e : Entry κ σ) (s : σ) :
      (if e.isUnder counts then some e.subscriber else none) = some s ↔
        e.subscriber = s ∧ e.isUnder counts = true := by
    cases e.isUnder counts <;> simp
  have hits : ((r.filtered.filter fun entry => counts entry.1).map (·.2)) =
      entries.filterMap fun e => if e.isUnder counts then some e.subscriber else none := by
    rw [holds.filtered, ← filterMap_filter_eq (p := Entry.isUnder counts), List.map_filterMap,
      List.filterMap_filter]
    · apply List.filterMap_congr
      rintro ⟨s, key⟩ _
      cases key <;> rfl
    · rintro ⟨s, key⟩ ⟨key', t⟩ same
      cases key with
      | none => cases same
      | some key =>
        obtain ⟨rfl, rfl⟩ := Prod.mk.inj (Option.some.inj same)
        rfl
  obtain ⟨others, appended, _, ordered⟩ := Distinct.addAll_ordered
    (if all then r.unfiltered else []) ((r.filtered.filter fun entry => counts entry.1).map (·.2))
  constructor
  · apply Distinct.nodup_addAll
    cases all with
    | true => exact holds.unfiltered_nodup
    | false => exact List.nodup_nil
  · intro s
    rw [Distinct.mem_addAll]
    apply or_congr
    · cases all with
      | true => simpa using holds.mem_unfiltered
      | false => simp
    · simp only [List.mem_map, List.mem_filter, Prod.exists]
      constructor
      · rintro ⟨key, t, ⟨member, counted⟩, rfl⟩
        exact ⟨key, holds.mem_filtered.mp member, counted⟩
      · rintro ⟨key, member, counted⟩
        exact ⟨key, s, ⟨holds.mem_filtered.mpr member, counted⟩, rfl⟩
  · refine ⟨others, ?_, ?_⟩
    · rw [appended, holds.unfiltered]
    · rw [hits] at ordered
      apply ordered.imp
      intro s t before
      simpa only [found] using findIdx_lt_of_filterMap before

theorem keeps_keysOf (holds : r.Holds entries) (s : σ) :
    Keeps entries (fun _ => true) s (r.keysOf s) := by
  have all := holds.keeps (fun _ => true) s
  simp only [Bool.and_true] at all
  exact all

theorem lists_subscribers (holds : r.Holds entries) :
    Lists entries (fun _ => true) true r.subscribers := by
  have all := holds.lists (fun _ => true) true
  simp only [List.filter_true, if_true] at all
  exact all

theorem shows (holds : r.Holds entries) (agrees : κ → κ → Bool) : r.Shows agrees entries where
  once := holds.once
  size := holds.size_eq
  isEmpty := holds.isEmpty_iff
  contains _ := holds.contains_iff
  keysOf := holds.keeps_keysOf
  subscribers := holds.lists_subscribers
  interested probe := holds.lists (agrees · probe)

theorem without (holds : r.Holds entries) (s : σ) :
    (r.without s).Holds (entries.filter fun e => e.subscriber ≠ s) := by
  apply holds.filter
  · intro t
    simp [bne, beq_eq_decide]
  · intro key t
    simp [bne, beq_eq_decide]

theorem unsubscribe_count (holds : r.Holds entries) (s : σ) :
    (r.unsubscribe s).1 = (entries.filter fun e => e.subscriber = s).length := by
  have split := List.length_eq_length_filter_add (l := entries) fun e => e.subscriber = s
  have rest : (r.without s).size = (entries.filter fun e => !decide (e.subscriber = s)).length := by
    rw [(holds.without s).size_eq]
    simp only [ne_eq, decide_not]
  unfold Registry.unsubscribe
  rw [holds.size_eq, rest]
  omega

theorem unsubscribeMatching (holds : r.Holds entries) (agrees : κ → κ → Bool) (probe : κ) (s : σ) :
    (r.unsubscribeMatching agrees probe s).2.Holds
      (entries.filter fun e => ¬(e.subscriber = s ∧ e.isUnder (agrees · probe) = true)) := by
  apply holds.filter_filtered
  · intro t
    simp [Entry.isUnder]
  · intro key t
    simp [Entry.isUnder, beq_eq_decide]

variable [DecidableEq κ]

theorem subscribe (holds : r.Holds entries) (s : σ) :
    (r.subscribe s).2.Holds (Distinct.add entries ⟨s, none⟩) ∧
      ((r.subscribe s).1 = true ↔ ⟨s, none⟩ ∉ entries) := by
  unfold Registry.subscribe Distinct.add
  by_cases old : ⟨s, none⟩ ∈ entries
  · rw [if_pos (List.contains_iff_mem.mpr (holds.mem_unfiltered.mpr old)),
      if_pos (List.contains_iff_mem.mpr old)]
    exact ⟨holds, by simpa using old⟩
  · rw [if_neg (mt List.contains_iff_mem.mp (mt holds.mem_unfiltered.mp old)),
      if_neg (mt List.contains_iff_mem.mp old)]
    refine ⟨?_, by simpa using old⟩
    have added := holds.concat old
    rw [Entry.filtered?_alone, Option.toList_none, List.append_nil] at added
    exact added

theorem subscribeTo (holds : r.Holds entries) (key : κ) (s : σ) :
    (r.subscribeTo key s).2.Holds (Distinct.add entries ⟨s, some key⟩) ∧
      ((r.subscribeTo key s).1 = true ↔ ⟨s, some key⟩ ∉ entries) := by
  unfold Registry.subscribeTo Distinct.add
  by_cases old : ⟨s, some key⟩ ∈ entries
  · rw [if_pos (List.contains_iff_mem.mpr (holds.mem_filtered.mpr old)),
      if_pos (List.contains_iff_mem.mpr old)]
    exact ⟨holds, by simpa using old⟩
  · rw [if_neg (mt List.contains_iff_mem.mp (mt holds.mem_filtered.mp old)),
      if_neg (mt List.contains_iff_mem.mp old)]
    refine ⟨?_, by simpa using old⟩
    have added := holds.concat old
    rw [Entry.unfiltered?_under, Option.toList_none, List.append_nil] at added
    exact added

theorem unsubscribeUnfiltered (holds : r.Holds entries) (s : σ) :
    (r.unsubscribeUnfiltered s).2.Holds (entries.filter fun e => e ≠ ⟨s, none⟩) ∧
      ((r.unsubscribeUnfiltered s).1 = true ↔ ⟨s, none⟩ ∈ entries) := by
  refine ⟨holds.filter_unfiltered ?_ ?_, ?_⟩
  · intro t
    simp [bne, beq_eq_decide]
  · intro key t
    simp
  · exact List.contains_iff_mem.trans holds.mem_unfiltered

theorem unsubscribeFrom (holds : r.Holds entries) (key : κ) (s : σ) :
    (r.unsubscribeFrom key s).2.Holds (entries.filter fun e => e ≠ ⟨s, some key⟩) ∧
      ((r.unsubscribeFrom key s).1 = true ↔ ⟨s, some key⟩ ∈ entries) := by
  refine ⟨holds.filter_filtered ?_ ?_, ?_⟩
  · intro t
    simp
  · intro key' t
    simp [bne, beq_eq_decide, and_comm]
  · exact List.contains_iff_mem.trans holds.mem_filtered

/-- A request does to a registry what it does to the entries, and it is answered by them. -/
theorem obey (holds : r.Holds entries) (agrees : κ → κ → Bool) (inspectKey : κ → String)
    (order : Order κ σ) :
    (r.obey agrees inspectKey order).2.Holds (Entry.after agrees entries order) ∧
      Answers agrees entries order (r.obey agrees inspectKey order).1 := by
  cases order with
  | subscribe s =>
    obtain ⟨held, told⟩ := holds.subscribe s
    exact ⟨held, .subscribe told⟩
  | subscribeTo key s =>
    obtain ⟨held, told⟩ := holds.subscribeTo key s
    exact ⟨held, .subscribeTo told⟩
  | unsubscribe s => exact ⟨holds.without s, .unsubscribe (holds.unsubscribe_count s)⟩
  | unsubscribeUnfiltered s =>
    obtain ⟨held, told⟩ := holds.unsubscribeUnfiltered s
    exact ⟨held, .unsubscribeUnfiltered told⟩
  | unsubscribeFrom key s =>
    obtain ⟨held, told⟩ := holds.unsubscribeFrom key s
    exact ⟨held, .unsubscribeFrom told⟩
  | unsubscribeMatching probe s =>
    exact ⟨holds.unsubscribeMatching agrees probe s,
      .unsubscribeMatching (holds.keeps (agrees · probe) s)⟩
  | interested probe all => exact ⟨holds, .interested (holds.lists (agrees · probe) all)⟩
  | keysOf s => exact ⟨holds, .keysOf (holds.keeps_keysOf s)⟩
  | contains s => exact ⟨holds, .contains holds.contains_iff⟩
  | clear => exact ⟨⟨.nil, rfl, rfl⟩, .clear holds.lists_subscribers⟩
  | inspect => exact ⟨holds, .inspect⟩

theorem obeyAll (holds : r.Holds entries) (agrees : κ → κ → Bool) (inspectKey : κ → String)
    (earlier later : List (Order κ σ)) (order : Order κ σ) :
    ∃ answer after,
      (r.obeyAll agrees inspectKey (earlier ++ order :: later))[earlier.length]? =
          some (answer, after) ∧
        Answers agrees (earlier.foldl (Entry.after agrees) entries) order answer ∧
        after.Holds (Entry.after agrees (earlier.foldl (Entry.after agrees) entries) order) := by
  induction earlier generalizing r entries with
  | nil =>
    obtain ⟨held, answered⟩ := holds.obey agrees inspectKey order
    exact ⟨_, _, rfl, answered, held⟩
  | cons first earlier ih => exact ih (holds.obey agrees inspectKey first).1

end Holds

variable [DecidableEq κ]

theorem length_obeyAll (agrees : κ → κ → Bool) (inspectKey : κ → String) (r : Registry κ σ)
    (orders : List (Order κ σ)) : (r.obeyAll agrees inspectKey orders).length = orders.length := by
  induction orders generalizing r with
  | nil => rfl
  | cons order orders ih => exact congrArg (· + 1) (ih _)

/-- Whatever is asked of a registry that is empty at first, and whatever was asked before and will
be asked after, each request does to the registry what it does to a list of entries without
repetition: the answer is the one that the entries before it give, and afterwards the registry
holds, counts and lists the entries after it. -/
theorem obeyAll_refines (agrees : κ → κ → Bool) (inspectKey : κ → String)
    (earlier later : List (Order κ σ)) (order : Order κ σ) :
    let orders := earlier ++ order :: later
    let before := Entry.afterAll agrees earlier
    let after := Entry.after agrees before order
    (empty.obeyAll agrees inspectKey orders).length = orders.length ∧
      ∃ answer r, (empty.obeyAll agrees inspectKey orders)[earlier.length]? = some (answer, r) ∧
        Answers agrees before order answer ∧ r.Holds after ∧ r.Shows agrees after := by
  intro orders before after
  have start : (empty : Registry κ σ).Holds [] := ⟨.nil, rfl, rfl⟩
  obtain ⟨answer, r, given, answered, held⟩ := start.obeyAll agrees inspectKey earlier later order
  exact ⟨length_obeyAll agrees inspectKey empty orders, answer, r, given, answered, held,
    held.shows agrees⟩

end Registry

end MeterHub
