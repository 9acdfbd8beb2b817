import MeterHub.Registry

/-!
Who is interested in a probe, and what the operations on a registry do to its entries.
-/

set_option autoImplicit false
set_option relaxedAutoImplicit false

namespace MeterHub.Registry

variable {κ σ : Type} [DecidableEq σ]

theorem contains_iff {r : Registry κ σ} {s : σ} :
    r.contains s = true ↔ s ∈ r.unfiltered ∨ ∃ key, (key, s) ∈ r.filtered := by
  simp [contains]

theorem mem_interested {agrees : κ → κ → Bool} {r : Registry κ σ} {probe : κ} {s : σ} :
    s ∈ r.interested agrees probe true ↔
      s ∈ r.unfiltered ∨ ∃ key, (key, s) ∈ r.filtered ∧ agrees key probe = true := by
  simp [interested, Distinct.mem_addAll]

theorem interested_eq_nil_iff {agrees : κ → κ → Bool} {r : Registry κ σ} {probe : κ} :
    r.interested agrees probe true = [] ↔
      r.unfiltered = [] ∧ ∀ entry ∈ r.filtered, agrees entry.1 probe = false := by
  constructor
  · intro nobody
    constructor
    · apply List.eq_nil_iff_forall_not_mem.mpr
      intro s member
      have interested : s ∈ r.interested agrees probe true := mem_interested.mpr (.inl member)
      rw [nobody] at interested
      cases interested
    · rintro ⟨key, s⟩ member
      cases passed : agrees key probe with
      | false => rfl
      | true =>
        have interested : s ∈ r.interested agrees probe true :=
          mem_interested.mpr (.inr ⟨key, member, passed⟩)
        rw [nobody] at interested
        cases interested
  · rintro ⟨none, refused⟩
    apply List.eq_nil_iff_forall_not_mem.mpr
    intro s interested
    rcases mem_interested.mp interested with member | ⟨key, member, passed⟩
    · rw [none] at member
      cases member
    · have never := refused (key, s) member
      rw [passed] at never
      cases never

theorem mem_keysOf {r : Registry κ σ} {s : σ} {key : κ} :
    key ∈ r.keysOf s ↔ (key, s) ∈ r.filtered := by
  simp [keysOf]

/-- The registry in which some subscribers have no entry without a filter and no filter that a probe
passes. -/
def dismiss (agrees : κ → κ → Bool) (r : Registry κ σ) (probe : κ) (told : List σ) :
    Registry κ σ :=
  { unfiltered := r.unfiltered.filter fun s => !told.contains s
    filtered := r.filtered.filter fun entry => !(told.contains entry.2 && agrees entry.1 probe) }

theorem dismiss_nil (agrees : κ → κ → Bool) (r : Registry κ σ) (probe : κ) :
    r.dismiss agrees probe [] = r := by
  have unfiltered : (r.unfiltered.filter fun s => !([] : List σ).contains s) = r.unfiltered := by
    simp
  have filtered : (r.filtered.filter fun entry =>
      !(([] : List σ).contains entry.2 && agrees entry.1 probe)) = r.filtered := by
    simp
  unfold dismiss
  rw [unfiltered, filtered]

theorem dismiss_cons (agrees : κ → κ → Bool) (r : Registry κ σ) (probe : κ) (s : σ)
    (told : List σ) :
    (r.dismiss agrees probe [s]).dismiss agrees probe told = r.dismiss agrees probe (s :: told) := by
  unfold dismiss
  congr 1
  · rw [List.filter_filter]
    apply List.filter_congr
    intro t _
    by_cases same : t = s <;> simp [same]
  · rw [List.filter_filter]
    apply List.filter_congr
    intro entry _
    by_cases same : entry.2 = s <;> cases agrees entry.1 probe <;> simp [same]

theorem mem_dismiss {agrees : κ → κ → Bool} {r : Registry κ σ} {probe : κ} {told : List σ}
    {entry : κ × σ} :
    entry ∈ (r.dismiss agrees probe told).filtered ↔
      entry ∈ r.filtered ∧ ¬(entry.2 ∈ told ∧ agrees entry.1 probe = true) := by
  change entry ∈ r.filtered.filter _ ↔ _
  rw [List.mem_filter, Bool.not_eq_true', ← Bool.not_eq_true, Bool.and_eq_true,
    List.contains_iff_mem]

theorem dismiss_interested (agrees : κ → κ → Bool) (r : Registry κ σ) (probe : κ) :
    r.dismiss agrees probe (r.interested agrees probe true) =
      { unfiltered := [], filtered := r.filtered.filter fun entry => !agrees entry.1 probe } := by
  unfold dismiss
  congr 1
  · apply List.filter_eq_nil_iff.mpr
    intro s member
    have interested : s ∈ r.interested agrees probe true := mem_interested.mpr (.inl member)
    simpa using interested
  · apply List.filter_congr
    rintro ⟨key, s⟩ member
    cases passed : agrees key probe with
    | false => simp
    | true =>
      have interested : s ∈ r.interested agrees probe true :=
        mem_interested.mpr (.inr ⟨key, member, passed⟩)
      simpa using interested

theorem mem_without {r : Registry κ σ} {s : σ} {entry : κ × σ} :
    entry ∈ (r.without s).filtered ↔ entry ∈ r.filtered ∧ entry.2 ≠ s := by
  simp [without]

theorem mem_interested_without {agrees : κ → κ → Bool} {r : Registry κ σ} {probe : κ} {s t : σ} :
    t ∈ (r.without s).interested agrees probe true ↔
      t ∈ r.interested agrees probe true ∧ t ≠ s := by
  rw [mem_interested, mem_interested]
  have unfiltered : t ∈ (r.without s).unfiltered ↔ t ∈ r.unfiltered ∧ t ≠ s := by
    simp [without]
  rw [unfiltered]
  constructor
  · rintro (⟨member, other⟩ | ⟨key, entered, agree⟩)
    · exact ⟨.inl member, other⟩
    · obtain ⟨entered, other⟩ := mem_without.mp entered
      exact ⟨.inr ⟨key, entered, agree⟩, other⟩
  · rintro ⟨member | ⟨key, entered, agree⟩, other⟩
    · exact .inl ⟨member, other⟩
    · exact .inr ⟨key, mem_without.mpr ⟨entered, other⟩, agree⟩

theorem subscribe_again (r : Registry κ σ) (s : σ) :
    (r.subscribe s).2.subscribe s = (false, (r.subscribe s).2) := by
  have entered : (r.subscribe s).2.unfiltered.contains s = true := by
    unfold subscribe
    split
    · assumption
    · simp
  exact if_pos entered

variable [DecidableEq κ]

theorem subscribeTo_unfiltered (r : Registry κ σ) (key : κ) (s : σ) :
    (r.subscribeTo key s).2.unfiltered = r.unfiltered := by
  unfold subscribeTo
  split <;> rfl

theorem mem_subscribeTo {r : Registry κ σ} {key : κ} {s : σ} {entry : κ × σ} :
    entry ∈ (r.subscribeTo key s).2.filtered ↔ entry ∈ r.filtered ∨ entry = (key, s) := by
  unfold subscribeTo
  by_cases there : (key, s) ∈ r.filtered
  · simp only [List.contains_iff_mem, there, if_true]
    constructor
    · exact Or.inl
    · rintro (member | rfl)
      · exact member
      · exact there
  · simp [there]

theorem subscribeTo_again (r : Registry κ σ) (key : κ) (s : σ) :
    (r.subscribeTo key s).2.subscribeTo key s = (false, (r.subscribeTo key s).2) :=
  if_pos (List.contains_iff_mem.mpr (mem_subscribeTo.mpr (.inr rfl)))

theorem subscribeTo_present {r : Registry κ σ} {key : κ} {s : σ}
    (present : (r.subscribeTo key s).1 = false) :
    (r.subscribeTo key s).2 = r ∧ (key, s) ∈ r.filtered := by
  unfold subscribeTo at present ⊢
  by_cases there : (key, s) ∈ r.filtered
  · simp [there]
  · simp [there] at present

theorem filter_ne_eq_self {α : Type} [BEq α] [LawfulBEq α] {items : List α} {a : α}
    (absent : a ∉ items) : items.filter (· != a) = items := by
  apply List.filter_eq_self.mpr
  intro b listed
  exact bne_iff_ne.mpr fun same => absent (same ▸ listed)

theorem unsubscribeFrom_subscribeTo {r : Registry κ σ} {key : κ} {s : σ}
    (added : (r.subscribeTo key s).1 = true) :
    ((r.subscribeTo key s).2.unsubscribeFrom key s).2 = r := by
  unfold subscribeTo at added ⊢
  by_cases there : (key, s) ∈ r.filtered
  · simp [there] at added
  · have others := filter_ne_eq_self there
    simp [there, unsubscribeFrom, List.filter_append, others]

theorem unsubscribeFrom_absent {r : Registry κ σ} {key : κ} {s : σ}
    (absent : (key, s) ∉ r.filtered) : (r.unsubscribeFrom key s).2 = r := by
  unfold unsubscribeFrom
  rw [filter_ne_eq_self absent]

theorem mem_unsubscribeFrom {r : Registry κ σ} {key : κ} {s : σ} {entry : κ × σ} :
    entry ∈ (r.unsubscribeFrom key s).2.filtered ↔ entry ∈ r.filtered ∧ entry ≠ (key, s) := by
  simp [unsubscribeFrom]

end MeterHub.Registry
