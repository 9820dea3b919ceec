import Mathlib.Data.List.Basic
import PlanningSearch.Reconcile

/-!
What keys lead to. The rows of a master table that are kept are those named by some key, in the
order of the table; the distinct keys are the same keys in order of first occurrence.
-/

namespace PlanningSearch

theorem reconcile_eq_filter {α : Type} (keys : List Key) (fragment : Key → String)
    (textOf : α → String) (rows : List α) :
    reconcile keys fragment textOf rows =
      rows.filter fun r => decide (∃ k ∈ keys, textOf r = fragment k) := by
  refine List.filter_congr fun r _ => ?_
  rw [Bool.eq_iff_iff, List.contains_iff_mem, List.mem_map, decide_eq_true_eq]
  simp only [eq_comm]

section Distinct

variable {α : Type} [BEq α] [LawfulBEq α]

theorem idxOf_lt_of_filter {p : α → Bool} {l : List α} {a b : α} (ha : p a = true)
    (hb : p b = true) (h : (l.filter p).idxOf a < (l.filter p).idxOf b) :
    l.idxOf a < l.idxOf b := by
  induction l with
  | nil => exact absurd h (Nat.lt_irrefl _)
  | cons x l ih =>
    by_cases hx : p x = true
    · rw [List.filter_cons_of_pos hx] at h
      by_cases hxb : x = b
      · rw [hxb, List.idxOf_cons_self] at h
        exact absurd h (Nat.not_lt_zero _)
      · by_cases hxa : x = a
        · rw [hxa, List.idxOf_cons_self, List.idxOf_cons_ne l (hxa ▸ hxb)]
          exact Nat.succ_pos _
        · rw [List.idxOf_cons_ne _ hxa, List.idxOf_cons_ne _ hxb] at h ⊢
          exact Nat.succ_lt_succ (ih (Nat.lt_of_succ_lt_succ h))
    · have hxa : x ≠ a := fun heq => hx (heq ▸ ha)
      have hxb : x ≠ b := fun heq => hx (heq ▸ hb)
      rw [List.filter_cons_of_neg hx] at h
      rw [List.idxOf_cons_ne _ hxa, List.idxOf_cons_ne _ hxb]
      exact Nat.succ_lt_succ (ih h)

theorem eraseDups_pairwise_idxOf (l : List α) :
    l.eraseDups.Pairwise fun a b => l.idxOf a < l.idxOf b := by
  cases l with
  | nil => exact .nil
  | cons x l =>
    let other (y : α) : Bool := !y == x
    have ih := eraseDups_pairwise_idxOf (l.filter other)
    have hother {y : α} (hy : y ∈ (l.filter other).eraseDups) : other y = true ∧ x ≠ y := by
      have hmem := (List.mem_filter.mp (List.mem_eraseDups.mp hy)).2
      exact ⟨hmem, (ne_of_beq_false ((Bool.not_eq_true' _).mp hmem)).symm⟩
    rw [List.eraseDups_cons, List.pairwise_cons]
    refine ⟨fun y hy => ?_, ih.imp_of_mem fun {a b} ha hb hlt => ?_⟩
    · rw [List.idxOf_cons_self, List.idxOf_cons_ne l (hother hy).2]
      exact Nat.succ_pos _
    · rw [List.idxOf_cons_ne l (hother ha).2, List.idxOf_cons_ne l (hother hb).2]
      exact Nat.succ_lt_succ (idxOf_lt_of_filter (hother ha).1 (hother hb).1 hlt)
termination_by l.length
decreasing_by exact Nat.lt_succ_of_le (List.length_filter_le _ _)

end Distinct

theorem mem_distinctKeys {keys : List Key} {k : Key} : k ∈ distinctKeys keys ↔ k ∈ keys :=
  List.mem_eraseDups

theorem distinctKeys_pairwise (keys : List Key) :
    (distinctKeys keys).Pairwise fun a b => keys.idxOf a < keys.idxOf b :=
  eraseDups_pairwise_idxOf keys

theorem distinctKeys_nodup (keys : List Key) : (distinctKeys keys).Nodup := by
  refine (distinctKeys_pairwise keys).imp fun {a b} hlt heq => ?_
  exact absurd hlt (heq ▸ Nat.lt_irrefl _)

theorem distinctKeys_ne_nil {keys : List Key} (h : keys ≠ []) : distinctKeys keys ≠ [] := by
  obtain ⟨k, hk⟩ := List.exists_mem_of_ne_nil keys h
  exact List.ne_nil_of_mem (mem_distinctKeys.mpr hk)

end PlanningSearch
