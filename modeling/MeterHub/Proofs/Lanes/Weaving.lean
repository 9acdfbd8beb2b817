import Mathlib.Data.List.GetD

/-!
Lists that are woven from rows: each row is used up from its front, and the rows take turns in any
way. Nothing is lost or added, and what belongs to one row keeps its order.
-/

set_option autoImplicit false
set_option relaxedAutoImplicit false

namespace MeterHub

variable {α : Type}

/-- A list is woven from rows. Where anything is left, the next item is the front of some row. -/
inductive Weaves : List (List α) → List α → Prop
  | spent {rows : List (List α)} (empty : ∀ row ∈ rows, row = []) : Weaves rows []
  | next {before after : List (List α)} {row whole : List α} {a : α}
      (rest : Weaves (before ++ row :: after) whole) :
      Weaves (before ++ (a :: row) :: after) (a :: whole)

namespace Weaves

variable {rows : List (List α)} {whole : List α}

theorem perm (weaves : Weaves rows whole) : whole.Perm rows.flatten := by
  induction weaves with
  | spent empty => rw [List.flatten_eq_nil_iff.mpr empty]
  | @next before after row whole a rest ih =>
    rw [List.flatten_append, List.flatten_cons] at ih ⊢
    rw [List.cons_append]
    exact (ih.cons a).trans List.perm_middle.symm

theorem sublist (weaves : Weaves rows whole) : ∀ row ∈ rows, row.Sublist whole := by
  induction weaves with
  | spent empty =>
    intro row member
    exact (empty row member).symm ▸ .refl []
  | @next before after row whole a rest ih =>
    intro other member
    rcases List.mem_append.mp member with early | late
    · exact (ih other (List.mem_append_left _ early)).cons a
    · rcases List.mem_cons.mp late with rfl | later
      · exact (ih row (List.mem_append_right before List.mem_cons_self)).cons_cons a
      · exact (ih other (List.mem_append_right before (List.mem_cons_of_mem row later))).cons a

end Weaves

/-- The items that are marked with the number of a row, in order. -/
def picked (marks : List (Nat × α)) (k : Nat) : List α :=
  (marks.filter fun mark => mark.1 = k).map Prod.snd

theorem picked_cons (mark : Nat × α) (marks : List (Nat × α)) (k : Nat) :
    picked (mark :: marks) k = (if mark.1 = k then [mark.2] else []) ++ picked marks k := by
  unfold picked
  rw [List.filter_cons]
  by_cases own : mark.1 = k <;> simp [own]

theorem picked_append (marks more : List (Nat × α)) (k : Nat) :
    picked (marks ++ more) k = picked marks k ++ picked more k := by
  unfold picked
  rw [List.filter_append, List.map_append]

theorem picked_of_absent {marks : List (Nat × α)} {k : Nat} (absent : k ∉ marks.map Prod.fst) :
    picked marks k = [] := by
  unfold picked
  rw [List.map_eq_nil_iff, List.filter_eq_nil_iff]
  intro mark member own
  exact absent (of_decide_eq_true own ▸ List.mem_map_of_mem member)

theorem Weaves.of_marks {rows : List (List α)} {marks : List (Nat × α)}
    (each : ∀ k, picked marks k = rows.getD k []) : Weaves rows (marks.map Prod.snd) := by
  induction marks generalizing rows with
  | nil =>
    refine .spent ?_
    intro row member
    obtain ⟨k, bound, rfl⟩ := List.mem_iff_getElem.mp member
    have none := each k
    rw [List.getD_eq_getElem rows [] bound] at none
    exact none.symm
  | cons mark marks ih =>
    obtain ⟨k, a⟩ := mark
    let row := picked marks k
    have own : rows.getD k [] = a :: row := by
      rw [← each k, picked_cons, if_pos rfl]
      rfl
    have bound : k < rows.length := by
      refine Nat.lt_of_not_le fun beyond => ?_
      rw [List.getD_eq_default rows [] beyond] at own
      cases own
    rw [List.getD_eq_getElem rows [] bound] at own
    have split : rows = rows.take k ++ (a :: row) :: rows.drop (k + 1) := by
      rw [← own, List.getElem_cons_drop, List.take_append_drop]
    have shorter : rows.set k row = rows.take k ++ row :: rows.drop (k + 1) :=
      List.set_eq_take_append_cons_drop.trans (if_pos bound)
    have rest : ∀ j, picked marks j = (rows.set k row).getD j [] := by
      intro j
      rw [List.getD_eq_getElem?_getD, List.getElem?_set]
      by_cases same : k = j
      · subst same
        rw [if_pos rfl, if_pos bound]
        rfl
      · rw [if_neg same, ← List.getD_eq_getElem?_getD, ← each j, picked_cons, if_neg same]
        rfl
    have woven := ih rest
    rw [shorter] at woven
    rw [split]
    exact woven.next

end MeterHub
