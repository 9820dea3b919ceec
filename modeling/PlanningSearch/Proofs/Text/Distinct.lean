import Mathlib.Data.List.Nodup
import PlanningSearch.Proofs.Text.Order
import PlanningSearch.Text.Distinct

/-!
A list of values to choose from holds the texts that are not blank, and nothing else, in strictly
increasing order. Only neighbours are compared when repeats are removed; that is enough because the
order of values tells apart any two texts that differ, so equal ones stand side by side. A strictly
increasing list is determined by its members, so the order and the number of the texts that it is
made from do not count.
-/

namespace PlanningSearch.Text

open Std

section Repeats

variable {α : Type} [BEq α]

theorem eraseReps_loop (last : α) (rest done : List α) :
    List.eraseRepsBy.loop (· == ·) last rest done = done.reverse ++ (last :: rest).eraseReps := by
  induction rest generalizing last done with
  | nil => simp [List.eraseReps, List.eraseRepsBy, List.eraseRepsBy.loop]
  | cons next rest ih =>
    simp only [List.eraseReps, List.eraseRepsBy, List.eraseRepsBy.loop]
    split <;> simp [ih]

variable [LawfulBEq α]

theorem eraseReps_cons_cons (x y : α) (rest : List α) :
    (x :: y :: rest).eraseReps =
      if x == y then (y :: rest).eraseReps else x :: (y :: rest).eraseReps := by
  simp only [List.eraseReps, List.eraseRepsBy, List.eraseRepsBy.loop]
  split
  · rename_i hequal
    rw [if_pos hequal, eq_of_beq hequal]
  · rename_i hequal
    rw [eraseReps_loop, hequal]
    rfl

theorem mem_eraseReps {x : α} {xs : List α} : x ∈ xs.eraseReps ↔ x ∈ xs := by
  induction xs with
  | nil => rfl
  | cons y xs ih =>
    cases xs with
    | nil => rfl
    | cons z xs =>
      rw [eraseReps_cons_cons]
      split
      · rename_i hequal
        rw [ih, eq_of_beq hequal]
        simp
      · rw [List.mem_cons, ih, List.mem_cons (l := z :: xs)]

variable {cmp : α → α → Ordering} [TransCmp cmp] [LawfulEqCmp cmp]

theorem pairwise_eraseReps {xs : List α} (h : xs.Pairwise fun a b => (cmp a b).isLE = true) :
    xs.eraseReps.Pairwise fun a b => cmp a b = .lt := by
  induction xs with
  | nil => exact .nil
  | cons x xs ih =>
    cases xs with
    | nil => exact List.pairwise_singleton _ _
    | cons y xs =>
      obtain ⟨hx, hxs⟩ := List.pairwise_cons.mp h
      rw [eraseReps_cons_cons]
      split
      · exact ih hxs
      · rename_i hne
        have hlt : cmp x y = .lt := by
          have hle := hx y List.mem_cons_self
          have heq : cmp x y ≠ .eq := fun heq => hne (beq_iff_eq.mpr (LawfulEqCmp.eq_of_compare heq))
          cases hcmp : cmp x y <;> simp_all
        refine List.pairwise_cons.mpr ⟨fun z hz => ?_, ih hxs⟩
        rcases List.mem_cons.mp (mem_eraseReps.mp hz) with rfl | hmem
        · exact hlt
        · exact TransCmp.lt_of_lt_of_isLE hlt ((List.pairwise_cons.mp hxs).1 z hmem)

omit [BEq α] [LawfulBEq α] [LawfulEqCmp cmp] in
theorem nodup_of_pairwise_lt {xs : List α} (h : xs.Pairwise fun a b => cmp a b = .lt) :
    xs.Nodup := by
  refine h.imp fun {a b} hlt heq => ?_
  have hself : cmp b b = .eq := ReflCmp.compare_self
  rw [heq, hself] at hlt
  cases hlt

omit [BEq α] [LawfulBEq α] [LawfulEqCmp cmp] in
theorem eq_of_pairwise_lt {xs ys : List α} (hxs : xs.Pairwise fun a b => cmp a b = .lt)
    (hys : ys.Pairwise fun a b => cmp a b = .lt) (hmem : ∀ a, a ∈ xs ↔ a ∈ ys) : xs = ys := by
  have hperm : xs.Perm ys :=
    (List.perm_ext_iff_of_nodup (nodup_of_pairwise_lt hxs) (nodup_of_pairwise_lt hys)).mpr hmem
  refine hperm.eq_of_pairwise (fun a b _ _ hab hba => ?_) hxs hys
  have hswap : cmp a b = (cmp b a).swap := OrientedCmp.eq_swap
  rw [hab, hba] at hswap
  cases hswap

end Repeats

variable [Order]

instance transCmp_valueOrder : TransCmp valueOrder :=
  inferInstanceAs (TransCmp (compareLex collate compare))

instance lawfulEqCmp_valueOrder : LawfulEqCmp valueOrder where
  eq_of_compare h := LawfulEqCmp.eq_of_compare (Ordering.then_eq_eq.mp h).2

theorem mem_sortedDistinct {value : String} {values : List String} :
    value ∈ sortedDistinct values ↔ value ∈ values ∧ blank value = false := by
  rw [sortedDistinct, mem_eraseReps, List.mem_mergeSort, List.mem_filter, Bool.not_eq_true']

theorem pairwise_sortedDistinct (values : List String) :
    (sortedDistinct values).Pairwise fun a b => valueOrder a b = .lt := by
  refine pairwise_eraseReps (List.pairwise_mergeSort ?_ ?_ _)
  · exact fun a b c => TransCmp.isLE_trans
  · intro a b
    have hswap : valueOrder b a = (valueOrder a b).swap := OrientedCmp.eq_swap
    rw [hswap]
    cases valueOrder a b <;> rfl

theorem sortedDistinct_congr {values values' : List String}
    (h : ∀ value, blank value = false → (value ∈ values ↔ value ∈ values')) :
    sortedDistinct values = sortedDistinct values' := by
  refine eq_of_pairwise_lt (pairwise_sortedDistinct values) (pairwise_sortedDistinct values')
    fun value => ?_
  rw [mem_sortedDistinct, mem_sortedDistinct]
  exact and_congr_left (h value)

end PlanningSearch.Text
