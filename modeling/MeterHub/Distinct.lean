/-!
Lists in which nothing occurs twice, in the order of first occurrence.
-/

set_option autoImplicit false
set_option relaxedAutoImplicit false

namespace MeterHub.Distinct

variable {α : Type} [DecidableEq α]

/-- Appends an item that is not there yet. -/
def add (items : List α) (a : α) : List α :=
  if items.contains a then items else items ++ [a]

/-- Appends the items that are not there yet, in order. -/
def addAll (items more : List α) : List α := more.foldl add items

/-- The first occurrence of each item. -/
def ofList (items : List α) : List α := addAll [] items

theorem mem_add {items : List α} {a b : α} : b ∈ add items a ↔ b ∈ items ∨ b = a := by
  by_cases h : a ∈ items
  · simp only [add, List.contains_iff_mem, h, if_true]
    constructor
    · exact Or.inl
    · rintro (hb | rfl)
      · exact hb
      · exact h
  · simp [add, h]

theorem nodup_add {items : List α} (h : items.Nodup) (a : α) : (add items a).Nodup := by
  by_cases ha : a ∈ items
  · simpa [add, ha] using h
  · rw [add, if_neg (by simpa using ha), List.nodup_append]
    refine ⟨h, by simp, ?_⟩
    intro x hx y hy hxy
    rw [List.mem_singleton] at hy
    exact ha (hy ▸ hxy ▸ hx)

theorem mem_addAll {items more : List α} {b : α} :
    b ∈ addAll items more ↔ b ∈ items ∨ b ∈ more := by
  induction more generalizing items with
  | nil => simp [addAll]
  | cons a more ih =>
    rw [addAll, List.foldl_cons, ← addAll, ih, mem_add, List.mem_cons, or_assoc]

theorem nodup_addAll {items : List α} (h : items.Nodup) (more : List α) :
    (addAll items more).Nodup := by
  induction more generalizing items with
  | nil => exact h
  | cons a more ih => exact ih (nodup_add h a)

theorem addAll_eq_append {items more : List α} (h : (items ++ more).Nodup) :
    addAll items more = items ++ more := by
  induction more generalizing items with
  | nil => simp [addAll]
  | cons a more ih =>
    have ha : a ∉ items := fun member =>
      (List.nodup_append.mp h).2.2 a member a List.mem_cons_self rfl
    have hadd : add items a = items ++ [a] := by simp [add, ha]
    rw [List.append_cons] at h ⊢
    rw [addAll, List.foldl_cons, hadd]
    exact ih h

theorem ofList_eq_self {items : List α} (h : items.Nodup) : ofList items = items :=
  addAll_eq_append h

end MeterHub.Distinct
