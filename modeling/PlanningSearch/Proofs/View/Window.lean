import PlanningSearch.Proofs.View.Consistency
import PlanningSearch.Text.Collation

/-!
The page numbers on display. They follow one another, five of them where there are so many pages,
and exist; the current page is among them, in their middle unless it is one of the first two or the
last two. A difference of words would wrap below zero; the numbers are those that integers give, so
none does.
-/

namespace PlanningSearch.View

variable {t : Table} {v : View t}

theorem map_pagesFrom {first : UInt64} {count : ℕ} (h : first.toNat + count ≤ UInt64.size) :
    (pagesFrom first count).map UInt64.toNat = List.range' first.toNat count := by
  rw [pagesFrom, List.map_map, List.range'_eq_map_range]
  refine List.map_congr_left fun i hi => ?_
  have hsum : first.toNat + i < UInt64.size := by
    have hlt := List.mem_range.mp hi
    omega
  have hi' : i < UInt64.size := by omega
  rw [Function.comp_apply, UInt64.toNat_add, UInt64.toNat_ofNat_of_lt' hi']
  exact Nat.mod_eq_of_lt hsum

theorem map_pageRange (v : View t) :
    v.pageRange.map UInt64.toNat = List.range' 1 v.totalPages.toNat := by
  refine map_pagesFrom ?_
  have hsize := v.totalPages.toNat_lt_size
  change 1 + v.totalPages.toNat ≤ UInt64.size
  omega

def firstVisible (page total : ℕ) : ℕ :=
  if total ≤ 5 then 1 else min (max (page - 2) 1) (total - 4)

theorem toNat_before (page : UInt64) :
    (if windowSize / 2 ≤ page then page - windowSize / 2 else 0).toNat = page.toNat - 2 := by
  have hhalf : (windowSize / 2).toNat = 2 := rfl
  split
  · rename_i hle
    rw [UInt64.toNat_sub_of_le _ _ hle, hhalf]
  · rename_i hlt
    rw [UInt64.le_iff_toNat_le, hhalf] at hlt
    change 0 = page.toNat - 2
    omega

theorem toNat_lastFirst {total : UInt64} (h : windowSize < total) :
    (total - windowSize + 1).toNat = total.toNat - 4 := by
  have hwindow : windowSize.toNat = 5 := rfl
  have hone : (1 : UInt64).toNat = 1 := rfl
  have hlt := UInt64.lt_iff_toNat_lt.mp h
  have hword : total.toNat < 2 ^ 64 := total.toNat_lt_size
  rw [UInt64.toNat_add, UInt64.toNat_sub_of_le _ _ (UInt64.le_of_lt h), hwindow, hone,
    Nat.mod_eq_of_lt (by omega)]
  omega

theorem toNat_firstVisible (page : UInt64) {total : UInt64} (h : windowSize < total) :
    (min (max (if windowSize / 2 ≤ page then page - windowSize / 2 else 0) 1)
      (total - windowSize + 1)).toNat = firstVisible page.toNat total.toNat := by
  have hmany : 5 < total.toNat := UInt64.lt_iff_toNat_lt.mp h
  rw [UInt64.toNat_min, UInt64.toNat_max, toNat_before, toNat_lastFirst h, firstVisible,
    if_neg (Nat.not_le.mpr hmany)]
  rfl

theorem map_visiblePages (v : View t) :
    v.visiblePages.map UInt64.toNat =
      List.range' (firstVisible v.page.toNat v.totalPages.toNat) (min 5 v.totalPages.toNat) := by
  by_cases hfew : v.totalPages ≤ windowSize
  · have htotal : v.totalPages.toNat ≤ 5 := UInt64.le_iff_toNat_le.mp hfew
    rw [visiblePages, if_pos hfew, map_pageRange, firstVisible, if_pos htotal,
      Nat.min_eq_right htotal]
  · have hmany : windowSize < v.totalPages := UInt64.not_le.mp hfew
    have htotal : 5 < v.totalPages.toNat := UInt64.lt_iff_toNat_lt.mp hmany
    have hword : v.totalPages.toNat < UInt64.size := v.totalPages.toNat_lt_size
    have hfirst := toNat_firstVisible v.page hmany
    rw [Nat.min_eq_left (by omega), ← hfirst, visiblePages, if_neg hfew]
    refine map_pagesFrom ?_
    rw [hfirst, firstVisible, if_neg (by omega)]
    change _ + 5 ≤ UInt64.size
    omega

section Window

variable {page total : ℕ}

theorem firstVisible_within (page : ℕ) (hpos : 1 ≤ total) :
    1 ≤ firstVisible page total ∧ firstVisible page total + min 5 total ≤ total + 1 := by
  unfold firstVisible
  split <;> omega

theorem firstVisible_eq (page total : ℕ) :
    (firstVisible page total : ℤ) =
      if total ≤ 5 then 1 else min (max ((page : ℤ) - 2) 1) ((total : ℤ) - 5 + 1) := by
  unfold firstVisible
  split <;> omega

theorem firstVisible_around (h : 1 ≤ page ∧ page ≤ total) :
    firstVisible page total ≤ page ∧ page < firstVisible page total + min 5 total := by
  unfold firstVisible
  split <;> omega

theorem firstVisible_of_inner (h : 3 ≤ page ∧ page + 2 ≤ total) (hmany : 5 < total) :
    firstVisible page total + 2 = page := by
  rw [firstVisible, if_neg (by omega)]
  omega

theorem firstVisible_of_outer (h : ¬ (3 ≤ page ∧ page + 2 ≤ total)) (hmany : 5 < total) :
    firstVisible page total = 1 ∨ firstVisible page total + 4 = total := by
  rw [firstVisible, if_neg (by omega)]
  omega

end Window

variable [Text.Order] in
/-- After any operations on a new view the page numbers on display are five consecutive pages, or
all of them where there are fewer, and the current page is one of them. If there are more pages than
that, the current page is the middle one, except for the first two and the last two pages, with
which the numbers start at the first or end at the last page. The first number is the one that
integers give, so no subtraction of words wraps. -/
theorem window_around_page (perPage : UInt64) (actions : List (Action t)) :
    let v := (start perPage).run actions
    let page := v.page.toNat
    let total := v.totalPages.toNat
    let numbers := v.visiblePages.map UInt64.toNat
    (∃ first : ℕ, numbers = List.range' first (min 5 total) ∧
      (first : ℤ) =
        if total ≤ 5 then 1 else min (max ((page : ℤ) - 2) 1) ((total : ℤ) - 5 + 1)) ∧
    (∀ n ∈ numbers, 1 ≤ n ∧ n ≤ total) ∧ page ∈ numbers ∧
    (5 < total → 3 ≤ page ∧ page + 2 ≤ total → numbers[2]? = some page) ∧
    (5 < total → ¬ (3 ≤ page ∧ page + 2 ≤ total) →
      numbers.head? = some 1 ∨ numbers.getLast? = some total) := by
  intro v page total numbers
  have h : v.Consistent := run_consistent (start_consistent perPage) actions
  have hpage : 1 ≤ page ∧ page ≤ total :=
    ⟨UInt64.le_iff_toNat_le.mp h.page.1, UInt64.le_iff_toNat_le.mp h.page.2⟩
  have hnumbers : numbers = List.range' (firstVisible page total) (min 5 total) :=
    map_visiblePages v
  obtain ⟨hfirst, hlast⟩ := firstVisible_within page (hpage.1.trans hpage.2)
  refine ⟨⟨_, hnumbers, firstVisible_eq page total⟩, fun n hn => ?_, ?_, fun hmany hinner => ?_,
    fun hmany houter => ?_⟩
  · rw [hnumbers, List.mem_range'_1] at hn
    omega
  · rw [hnumbers, List.mem_range'_1]
    exact firstVisible_around hpage
  · rw [hnumbers, List.getElem?_range' (by omega), Nat.one_mul, firstVisible_of_inner hinner hmany]
  · have hfive : min 5 total = 5 := Nat.min_eq_left (by omega)
    rw [hnumbers, hfive]
    refine (firstVisible_of_outer houter hmany).imp (fun hone => ?_) fun hend => ?_
    · rw [hone]
      rfl
    · rw [List.getLast?_range', if_neg (by omega)]
      exact congrArg some hend

theorem window_around_page_of_six :
    let row (id : String) : Row .channel := ⟨#v[id, "", ""]⟩
    let rows := ["A", "B", "C", "D", "E", "F"].map row
    let load : Action .channel := .load rows (by decide)
    let inner : View .channel := (start 1).run [load, .goTo 4]
    let outer : View .channel := (start 1).run [load, .goTo 9]
    inner.visiblePages = [2, 3, 4, 5, 6] ∧
    (inner.visiblePages.map UInt64.toNat)[2]? = some inner.page.toNat ∧
    outer.page.toNat ∈ outer.visiblePages.map UInt64.toNat ∧
    ((outer.visiblePages.map UInt64.toNat).head? = some 1 ∨
      (outer.visiblePages.map UInt64.toNat).getLast? = some outer.totalPages.toNat) := by
  intro row rows load inner outer
  have hinner : inner.page.toNat = 4 ∧ inner.totalPages.toNat = 6 := by decide
  have houter : outer.page.toNat = 6 ∧ outer.totalPages.toNat = 6 := by decide
  obtain ⟨-, -, -, hmiddle, -⟩ := window_around_page 1 [load, .goTo 4]
  obtain ⟨-, -, hshown, -, hends⟩ := window_around_page 1 [load, .goTo 9]
  have hmany : 5 < inner.totalPages.toNat := by rw [hinner.2]; decide
  have hmany' : 5 < outer.totalPages.toNat := by rw [houter.2]; decide
  refine ⟨by decide, hmiddle hmany ?_, hshown, hends hmany' ?_⟩
  · change 3 ≤ inner.page.toNat ∧ inner.page.toNat + 2 ≤ inner.totalPages.toNat
    rw [hinner.1, hinner.2]
    decide
  · change ¬ (3 ≤ outer.page.toNat ∧ outer.page.toNat + 2 ≤ outer.totalPages.toNat)
    rw [houter.1, houter.2]
    decide

end PlanningSearch.View
