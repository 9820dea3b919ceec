import PlanningSearch.Proofs.View.Consistency

/-!
Sorting is stable in either direction: rows whose texts are equal under the collation stand as they
stood before. Order, content and the order of ties together determine the sorted list.
-/

namespace PlanningSearch

variable {t : Table}

namespace SortOrder

variable [Text.Order]

theorem compare_eq_iff (o : SortOrder t) (a b : Row t) :
    o.compare a b = .eq ↔ o.le a b = true ∧ o.le b a = true := by
  unfold compare le
  rw [Text.collate_swap (b.text o.column)]
  cases Text.collate (a.text o.column) (b.text o.column) <;> cases o.descending <;> decide

def ties (o : SortOrder t) (a b : Row t) : Bool := o.compare a b == .eq

theorem ties_iff (o : SortOrder t) (a b : Row t) :
    o.ties a b = true ↔ o.le a b = true ∧ o.le b a = true := by
  rw [ties, beq_iff_eq, compare_eq_iff]

def StablySorted (order : Option (SortOrder t)) (rows sorted : List (Row t)) : Prop :=
  match order with
  | none => sorted = rows
  | some o => sorted.Perm rows ∧ (sorted.Pairwise fun a b => o.compare a b ≠ .gt) ∧
      ∀ r, sorted.filter (o.ties r) = rows.filter (o.ties r)

theorem filter_ties_sort (o : SortOrder t) (rows : List (Row t)) (r : Row t) :
    (sort (some o) rows).filter (o.ties r) = rows.filter (o.ties r) := by
  have hties : (rows.filter (o.ties r)).Pairwise fun a b => o.le a b = true := by
    refine List.pairwise_filter.mpr (List.pairwise_of_forall fun a b ha hb => ?_)
    exact o.le_trans a r b ((o.ties_iff r a).mp ha).2 ((o.ties_iff r b).mp hb).1
  have hsub : (rows.filter (o.ties r)).Sublist (sort (some o) rows) :=
    List.sublist_mergeSort o.le_trans o.le_total hties List.filter_sublist
  have hfiltered := hsub.filter (o.ties r)
  rw [List.filter_filter] at hfiltered
  simp only [Bool.and_self] at hfiltered
  refine (hfiltered.eq_of_length ?_).symm
  rw [← List.countP_eq_length_filter, ← List.countP_eq_length_filter]
  exact ((sort_perm (some o) rows).countP_eq (o.ties r)).symm

theorem stablySorted_sort (order : Option (SortOrder t)) (rows : List (Row t)) :
    StablySorted order rows (sort order rows) := by
  cases order with
  | none => rfl
  | some o => exact ⟨sort_perm (some o) rows, o.sort_pairwise rows, o.filter_ties_sort rows⟩

end SortOrder

end PlanningSearch
