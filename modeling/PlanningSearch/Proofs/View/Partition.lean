import PlanningSearch.Proofs.View.Consistency
import PlanningSearch.Text.Collation

/-!
The pages of a view, visited in turn, hold its rows in order, each row on one page. Every page but
the last is full and no page is empty unless there are no rows. The 64-bit arithmetic behind a page
is exact: a page after the first starts within the rows, so a page size is either smaller than the
number of rows or not multiplied at all.
-/

namespace PlanningSearch

section Slices

variable {α : Type} {xs : List α} {k i n : ℕ}

def slice (k : ℕ) (xs : List α) (i : ℕ) : List α := (xs.drop (i * k)).take k

theorem flatten_slices (k : ℕ) (xs : List α) (n : ℕ) :
    ((List.range n).map (slice k xs)).flatten = xs.take (n * k) := by
  induction n with
  | zero => simp
  | succ n ih => simp [List.range_succ, ih, slice, Nat.succ_mul, List.take_add]

theorem length_slice (k : ℕ) (xs : List α) (i : ℕ) :
    (slice k xs i).length = min k (xs.length - i * k) := by
  simp [slice]

theorem mul_lt_of_lt_ceilDiv (hk : 0 < k) (h : i < n ⌈/⌉ k) : i * k < n := by
  by_contra hle
  have hceil : n ⌈/⌉ k ≤ i := (ceilDiv_le_iff_le_mul hk).mpr (by rw [Nat.mul_comm]; omega)
  omega

end Slices

namespace View

variable {t : Table} {v : View t}

/-- The 64-bit arithmetic of the current page stays in range: the number of pages, the rows before
the page, and the end of the page. -/
structure Exact (v : View t) : Prop where
  count : v.shown.length < UInt64.size
  divisor : 0 < v.perPage.toNat
  pages : v.shown.length / v.perPage.toNat + 1 < UInt64.size
  page : 1 ≤ v.page.toNat
  before : (v.page.toNat - 1) * v.perPage.toNat < UInt64.size
  last : min ((v.page.toNat - 1) * v.perPage.toNat) v.shown.length + v.perPage.toNat < UInt64.size

section

variable [Text.Order]

theorem Consistent.perPage_pos (h : v.Consistent) : 0 < v.perPage.toNat :=
  UInt64.le_iff_toNat_le.mp h.perPage

theorem Consistent.start_lt (h : v.Consistent) (hlength : v.shown.length < UInt64.size) {i : ℕ}
    (hi : i < v.totalPages.toNat) (hsome : 0 < i ∨ v.shown ≠ []) :
    i * v.perPage.toNat < v.shown.length := by
  rw [totalPages_toNat hlength h.perPage] at hi
  by_cases hfirst : i = 0
  · have hpos := List.length_pos_iff.mpr (hsome.resolve_left (by omega))
    simpa [hfirst] using hpos
  · exact mul_lt_of_lt_ceilDiv h.perPage_pos (by omega)

theorem Consistent.exact (h : v.Consistent) (hrows : v.shown.length < 2 ^ 63) : v.Exact := by
  have hsize : UInt64.size = 2 ^ 64 := rfl
  have hlength : v.shown.length < UInt64.size := by omega
  have hpage : 1 ≤ v.page.toNat := UInt64.le_iff_toNat_le.mp h.page.1
  have htotal : v.page.toNat ≤ v.totalPages.toNat := UInt64.le_iff_toNat_le.mp h.page.2
  have hfull := Nat.div_le_self v.shown.length v.perPage.toNat
  have hword := v.perPage.toNat_lt_size
  by_cases hfirst : v.page.toNat = 1
  · refine ⟨hlength, h.perPage_pos, by omega, hpage, ?_, ?_⟩
    · simp [hfirst, hsize]
    · simpa [hfirst] using hword
  · have hbefore : (v.page.toNat - 1) * v.perPage.toNat < v.shown.length :=
      h.start_lt hlength (by omega) (.inl (by omega))
    have hper : v.perPage.toNat ≤ (v.page.toNat - 1) * v.perPage.toNat :=
      Nat.le_mul_of_pos_left _ (by omega)
    exact ⟨hlength, h.perPage_pos, by omega, hpage, by omega, by omega⟩

omit [Text.Order] in
theorem Exact.pageRows_eq (h : v.Exact) :
    v.pageRows = slice v.perPage.toNat v.shown (v.page.toNat - 1) := by
  have hone : (1 : UInt64) ≤ v.page := UInt64.le_iff_toNat_le.mpr h.page
  have hcount : v.count.toNat = v.shown.length := count_toNat h.count
  have hbefore : ((v.page - 1) * v.perPage).toNat = (v.page.toNat - 1) * v.perPage.toNat := by
    rw [UInt64.toNat_mul, UInt64.toNat_sub_of_le _ _ hone]
    exact Nat.mod_eq_of_lt h.before
  have hfirst : (min ((v.page - 1) * v.perPage) v.count).toNat =
      min ((v.page.toNat - 1) * v.perPage.toNat) v.shown.length := by
    rw [UInt64.toNat_min, hbefore, hcount]
  have hlast : (min ((v.page - 1) * v.perPage) v.count + v.perPage).toNat =
      min ((v.page.toNat - 1) * v.perPage.toNat) v.shown.length + v.perPage.toNat := by
    rw [UInt64.toNat_add, hfirst]
    exact Nat.mod_eq_of_lt h.last
  simp only [pageRows, slice, UInt64.toNat_min, hlast, hbefore, hcount]
  rw [← List.take_eq_take_min, List.drop_take, Nat.add_sub_cancel_left]
  by_cases hle : (v.page.toNat - 1) * v.perPage.toNat ≤ v.shown.length
  · rw [Nat.min_eq_left hle]
  · rw [List.drop_of_length_le (by omega), List.drop_of_length_le (by omega)]

def visit (v : View t) (i : ℕ) : View t :=
  v.run ((List.range i).map fun j => .goTo (UInt64.ofNat (j + 1)))

def pages (v : View t) : List (List (Row t)) :=
  (List.range v.totalPages.toNat).map fun i => (v.visit (i + 1)).pageRows

theorem visit_succ (v : View t) (i : ℕ) :
    v.visit (i + 1) = (v.visit i).goTo (UInt64.ofNat (i + 1)) := by
  simp [visit, run, List.range_succ, act]

theorem visit_eq (v : View t) (i : ℕ) : ∃ page, v.visit i = { v with page := page } := by
  induction i with
  | zero => exact ⟨v.page, rfl⟩
  | succ i ih =>
    obtain ⟨page, hpage⟩ := ih
    rw [visit_succ, hpage]
    exact ⟨_, rfl⟩

theorem visit_page (v : View t) {i : ℕ} (hi : i < v.totalPages.toNat) :
    (v.visit (i + 1)).page.toNat = i + 1 := by
  obtain ⟨page, hpage⟩ := v.visit_eq i
  have hword : (UInt64.ofNat (i + 1)).toNat = i + 1 := by
    have hsize := v.totalPages.toNat_lt_size
    exact UInt64.toNat_ofNat_of_lt' (by omega)
  have hnonzero : ¬ UInt64.ofNat (i + 1) < 1 := by
    rw [UInt64.lt_iff_toNat_lt, hword]
    simp
  have hexists : ¬ v.totalPages < UInt64.ofNat (i + 1) := by
    rw [UInt64.lt_iff_toNat_lt, hword]
    omega
  have htotal : totalPages { v with page := UInt64.ofNat (i + 1) } = v.totalPages := rfl
  rw [visit_succ, hpage]
  simp only [goTo, clamp, htotal, if_neg hnonzero, if_neg hexists, hword]

theorem Consistent.visit (h : v.Consistent) (i : ℕ) : (v.visit i).Consistent :=
  run_consistent h _

theorem Consistent.visit_exact (h : v.Consistent) (hrows : v.shown.length < 2 ^ 63) (i : ℕ) :
    (v.visit i).Exact := by
  obtain ⟨page, hpage⟩ := v.visit_eq i
  refine (h.visit i).exact ?_
  rw [hpage]
  exact hrows

theorem Consistent.pages_eq (h : v.Consistent) (hrows : v.shown.length < 2 ^ 63) :
    v.pages = (List.range v.totalPages.toNat).map (slice v.perPage.toNat v.shown) := by
  refine List.map_congr_left fun i hi => ?_
  obtain ⟨page, hpage⟩ := v.visit_eq (i + 1)
  have hnumber := v.visit_page (List.mem_range.mp hi)
  rw [(h.visit_exact hrows (i + 1)).pageRows_eq, hnumber, hpage]
  rfl

theorem Consistent.flatten_pages (h : v.Consistent) (hrows : v.shown.length < 2 ^ 63) :
    v.pages.flatten = v.shown := by
  have hlength : v.shown.length < UInt64.size := hrows.trans (by decide)
  have hcover : v.shown.length ≤ v.totalPages.toNat * v.perPage.toNat := by
    rw [Nat.mul_comm]
    refine (ceilDiv_le_iff_le_mul h.perPage_pos).mp ?_
    rw [totalPages_toNat hlength h.perPage]
    exact le_max_right _ _
  rw [h.pages_eq hrows, flatten_slices, List.take_of_length_le hcover]

theorem Consistent.length_of_mem_dropLast (h : v.Consistent) (hrows : v.shown.length < 2 ^ 63)
    {rows : List (Row t)} (hmem : rows ∈ v.pages.dropLast) : rows.length = v.perPage.toNat := by
  rw [h.pages_eq hrows, List.dropLast_eq_take, ← List.map_take, List.take_range,
    List.length_map, List.length_range] at hmem
  obtain ⟨i, hi, rfl⟩ := List.mem_map.mp hmem
  rw [List.mem_range] at hi
  -- one more page follows, so this one ends within the rows
  have hnext : (i + 1) * v.perPage.toNat < v.shown.length :=
    h.start_lt (hrows.trans (by decide)) (by omega) (.inl (by omega))
  rw [Nat.succ_mul] at hnext
  rw [length_slice]
  omega

theorem Consistent.ne_nil_of_mem (h : v.Consistent) (hrows : v.shown.length < 2 ^ 63)
    (hshown : v.shown ≠ []) {rows : List (Row t)} (hmem : rows ∈ v.pages) : rows ≠ [] := by
  rw [h.pages_eq hrows] at hmem
  obtain ⟨i, hi, rfl⟩ := List.mem_map.mp hmem
  have hstart : i * v.perPage.toNat < v.shown.length :=
    h.start_lt (hrows.trans (by decide)) (List.mem_range.mp hi) (.inr hshown)
  have hpos := h.perPage_pos
  rw [← List.length_pos_iff, length_slice]
  omega

/-- After any operations on a new view, with fewer than 2^63 rows, the arithmetic of the current
page and of each page visited is exact, and the pages visited in turn partition the rows: all but
the last are full and none is empty unless there are no rows at all. -/
theorem pages_partition (perPage : UInt64) (actions : List (Action t)) :
    let v := (start perPage).run actions
    v.all.length < 2 ^ 63 →
      v.Exact ∧ (∀ i < v.totalPages.toNat, (v.visit (i + 1)).Exact) ∧
      v.pages.flatten = v.shown ∧
      (∀ rows ∈ v.pages.dropLast, rows.length = v.perPage.toNat) ∧
      (v.shown ≠ [] → ∀ rows ∈ v.pages, rows ≠ []) := by
  intro v hall
  have h : v.Consistent := run_consistent (start_consistent perPage) actions
  have hrows : v.shown.length < 2 ^ 63 :=
    (h.perm.length_eq.trans_le (List.length_filter_le _ _)).trans_lt hall
  exact ⟨h.exact hrows, fun i _ => h.visit_exact hrows (i + 1), h.flatten_pages hrows,
    fun _ => h.length_of_mem_dropLast hrows, fun hshown _ => h.ne_nil_of_mem hrows hshown⟩

end

theorem pages_partition_of_three_rows :
    let row (id : String) : Row .channel := ⟨#v[id, "", ""]⟩
    let load : Action .channel := .load [row "C1", row "C2", row "C3"] (by decide)
    let small : View .channel := (start 0).run [load, .setPerPage 2, .goTo 9]
    let great : View .channel := (start 0).run [load, .setPerPage 18446744073709551615, .goTo 9]
    small.all.length < 2 ^ 63 ∧ small.page = 2 ∧
    small.pages = [[row "C1", row "C2"], [row "C3"]] ∧ small.pages.flatten = small.shown ∧
    great.all.length < 2 ^ 63 ∧ great.Exact ∧ great.pages = [great.shown] := by
  intro row load small great
  have hsmall := pages_partition 0 [load, .setPerPage 2, .goTo 9] (by decide)
  have hgreat := pages_partition 0 [load, .setPerPage 18446744073709551615, .goTo 9] (by decide)
  exact ⟨by decide, by decide, by decide, hsmall.2.2.1, by decide, hgreat.1, by decide⟩

end View

end PlanningSearch
