import PlanningSearch.Proofs.Text.Order
import PlanningSearch.Proofs.View.Pages

/-!
What holds of a view after any sequence of operations: the rows shown are the rows that pass the
filters, in the chosen order, and the page exists. Loading and filtering establish the rows anew,
sorting permutes them, and the page is set to one or clamped wherever the rows or the page size
change; a change of the order leaves their number alone.
-/

namespace PlanningSearch

open Std

variable [Text.Order]

namespace SortOrder

variable {t : Table}

def compare (o : SortOrder t) (a b : Row t) : Ordering :=
  let c := Text.collate (a.text o.column) (b.text o.column)
  if o.descending then c.swap else c

theorem le_iff (o : SortOrder t) (a b : Row t) : o.le a b = true ↔ o.compare a b ≠ .gt := by
  unfold le compare
  split
  · rw [Text.collate_swap, Ordering.isLE_iff_ne_gt]
  · rw [Ordering.isLE_iff_ne_gt]

theorem le_trans (o : SortOrder t) (a b c : Row t) (hab : o.le a b = true)
    (hbc : o.le b c = true) : o.le a c = true := by
  unfold le at *
  split at hab
  · rw [if_pos ‹_›] at hbc ⊢
    exact TransCmp.isLE_trans hbc hab
  · rw [if_neg ‹_›] at hbc ⊢
    exact TransCmp.isLE_trans hab hbc

theorem le_total (o : SortOrder t) (a b : Row t) : (o.le a b || o.le b a) = true := by
  have htotal (x y : String) : ((Text.collate x y).isLE || (Text.collate y x).isLE) = true := by
    rw [Text.collate_swap y x]
    cases Text.collate x y <;> rfl
  unfold le
  split
  · exact htotal _ _
  · exact htotal _ _

theorem sort_perm (order : Option (SortOrder t)) (rows : List (Row t)) :
    (sort order rows).Perm rows := by
  cases order with
  | none => exact .refl rows
  | some o => exact List.mergeSort_perm rows o.le

theorem sort_pairwise (o : SortOrder t) (rows : List (Row t)) :
    (sort (some o) rows).Pairwise fun a b => o.compare a b ≠ .gt :=
  (List.pairwise_mergeSort o.le_trans o.le_total rows).imp (o.le_iff _ _).mp

end SortOrder

namespace View

variable {t : Table}

/-- The operations on a view. The length of a list of rows is a 64-bit number. -/
inductive Action (t : Table) where
  | load (rows : List (Row t)) (fits : rows.length < UInt64.size)
  | clear
  | filterContaining (wanted : List (String × String))
  | filterExactly (wanted : List (String × String))
  | setFilters (filters : List (Filter t))
  | clearFilters
  | sortBy (name : String)
  | goTo (page : UInt64)
  | setPerPage (perPage : UInt64)

def act (v : View t) : Action t → View t
  | .load rows _ => v.load rows
  | .clear => v.clear
  | .filterContaining wanted => v.filterContaining wanted
  | .filterExactly wanted => v.filterExactly wanted
  | .setFilters filters => v.setFilters filters
  | .clearFilters => v.clearFilters
  | .sortBy name => (v.sortBy name).1
  | .goTo page => v.goTo page
  | .setPerPage perPage => v.setPerPage perPage

def run (v : View t) (actions : List (Action t)) : View t := actions.foldl act v

structure Consistent (v : View t) : Prop where
  fits : v.all.length < UInt64.size
  perm : v.shown.Perm (v.all.filter (passes v.filters))
  sorted : ∀ o, v.order = some o → v.shown.Pairwise fun a b => o.compare a b ≠ .gt
  perPage : 1 ≤ v.perPage
  page : 1 ≤ v.page ∧ v.page ≤ v.totalPages

omit [Text.Order] in
theorem one_le_max (n : UInt64) : 1 ≤ max n 1 := by
  rw [UInt64.le_iff_toNat_le, UInt64.toNat_max]
  exact le_max_right _ _

theorem start_consistent (perPage : UInt64) : (start perPage : View t).Consistent where
  fits := (Nat.two_pow_pos 64)
  perm := .refl _
  sorted _ h := by cases h
  perPage := one_le_max perPage
  page := ⟨UInt64.le_refl _, one_le_totalPages _⟩

theorem refresh_consistent {v : View t} (hn : v.all.length < UInt64.size) (hp : 1 ≤ v.perPage) :
    ({ v.refresh with page := 1 } : View t).Consistent where
  fits := hn
  perm := SortOrder.sort_perm v.order _
  sorted o ho := by
    change v.order = some o at ho
    change (SortOrder.sort v.order _).Pairwise _
    rw [ho]
    exact o.sort_pairwise _
  perPage := hp
  page := ⟨UInt64.le_refl _, one_le_totalPages _⟩

theorem load_consistent {v : View t} (h : v.Consistent) {rows : List (Row t)}
    (hn : rows.length < UInt64.size) : (v.load rows).Consistent :=
  refresh_consistent (v := { v with all := rows }) hn h.perPage

theorem setFilters_consistent {v : View t} (h : v.Consistent) (filters : List (Filter t)) :
    (v.setFilters filters).Consistent :=
  refresh_consistent (v := { v with filters := filters }) h.fits h.perPage

theorem reorder_consistent {v : View t} (h : v.Consistent) (o : SortOrder t) :
    ({ v with order := some o, shown := SortOrder.sort (some o) v.shown } : View t).Consistent := by
  have hperm := SortOrder.sort_perm (some o) v.shown
  refine ⟨h.fits, hperm.trans h.perm, ?_, h.perPage, h.page.1, ?_⟩
  · rintro _ ⟨⟩
    exact o.sort_pairwise v.shown
  · refine le_of_le_of_eq h.page.2 (totalPages_congr ?_ rfl)
    exact hperm.length_eq.symm

theorem sortBy_consistent {v : View t} (h : v.Consistent) (name : String) :
    (v.sortBy name).1.Consistent := by
  unfold sortBy
  cases t.resolve? name with
  | none => exact h
  | some c => exact reorder_consistent h (SortOrder.choose v.order c)

theorem clamp_consistent {v : View t} (hn : v.all.length < UInt64.size)
    (hperm : v.shown.Perm (v.all.filter (passes v.filters)))
    (hsorted : ∀ o, v.order = some o → v.shown.Pairwise fun a b => o.compare a b ≠ .gt)
    (hp : 1 ≤ v.perPage) : v.clamp.Consistent :=
  ⟨hn, hperm, hsorted, hp, clamp_page v⟩

theorem act_consistent {v : View t} (h : v.Consistent) (a : Action t) : (v.act a).Consistent := by
  cases a with
  | load rows fits => exact load_consistent h fits
  | clear => exact load_consistent h (Nat.two_pow_pos 64)
  | filterContaining wanted => exact setFilters_consistent h _
  | filterExactly wanted => exact setFilters_consistent h _
  | setFilters filters => exact setFilters_consistent h filters
  | clearFilters => exact setFilters_consistent h []
  | sortBy name => exact sortBy_consistent h name
  | goTo page => exact clamp_consistent h.fits h.perm h.sorted h.perPage
  | setPerPage perPage => exact clamp_consistent h.fits h.perm h.sorted (one_le_max perPage)

theorem run_consistent {v : View t} (h : v.Consistent) (actions : List (Action t)) :
    (v.run actions).Consistent := by
  induction actions generalizing v with
  | nil => exact h
  | cons a actions ih => exact ih (act_consistent h a)

/-- After any operations on a new view, the rows shown are those that pass all filters, none lost
and none repeated, in the chosen order, and the page is one of the pages that they fill. -/
theorem run_start_invariant (perPage : UInt64) (actions : List (Action t)) :
    let v := (start perPage).run actions
    v.shown.Perm (v.all.filter fun r => decide (∀ f ∈ v.filters, f.keeps r = true)) ∧
    (∀ o, v.order = some o → v.shown.Pairwise fun a b => o.compare a b ≠ .gt) ∧
    1 ≤ v.perPage ∧
    1 ≤ v.page ∧ v.page ≤ v.totalPages ∧
    v.totalPages.toNat = max 1 (v.shown.length ⌈/⌉ v.perPage.toNat) := by
  intro v
  have h : v.Consistent := run_consistent (start_consistent perPage) actions
  have hpasses : passes v.filters = fun r => decide (∀ f ∈ v.filters, f.keeps r = true) := by
    funext r
    rw [passes, Bool.eq_iff_iff, List.all_eq_true, decide_eq_true_eq]
  have hlength : v.shown.length < UInt64.size :=
    Nat.lt_of_le_of_lt (h.perm.length_eq.trans_le (List.length_filter_le _ _)) h.fits
  exact ⟨hpasses ▸ h.perm, h.sorted, h.perPage, h.page.1, h.page.2,
    totalPages_toNat hlength h.perPage⟩

end View

end PlanningSearch
