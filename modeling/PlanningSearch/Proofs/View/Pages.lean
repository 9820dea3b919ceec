import Mathlib.Algebra.Order.Floor.Div
import PlanningSearch.View

/-!
The number of pages. Its 64-bit arithmetic is exact for every list whose length is a 64-bit number:
full pages and one more for a remainder, but at least one page. Clamping moves the page into that
range and changes nothing else.
-/

namespace PlanningSearch

theorem ceilDiv_eq_ite (n : ℕ) {p : ℕ} (hp : 0 < p) :
    n ⌈/⌉ p = if n % p = 0 then n / p else n / p + 1 := by
  rw [Nat.ceilDiv_eq_add_pred_div]
  have hn := Nat.div_add_mod n p
  have hlt := Nat.mod_lt n hp
  split
  · have hd : n + p - 1 = p * (n / p) + (p - 1) := by omega
    have hrest : (p - 1) / p = 0 := Nat.div_eq_of_lt (by omega)
    rw [hd, Nat.mul_add_div hp, hrest, Nat.add_zero]
  · have hd : n + p - 1 = p * (n / p) + (n % p + p - 1) := by omega
    have hrest : (n % p + p - 1) / p = 1 := Nat.div_eq_of_lt_le (by omega) (by omega)
    rw [hd, Nat.mul_add_div hp, hrest]

namespace View

variable {t : Table}

theorem count_toNat {v : View t} (h : v.shown.length < UInt64.size) :
    v.count.toNat = v.shown.length :=
  UInt64.toNat_ofNat_of_lt' h

/-- A remainder leaves room for one more page: there are two rows to a page or more. -/
theorem full_lt {n p : ℕ} (hn : n < UInt64.size) (hr : n % p ≠ 0) : n / p + 1 < UInt64.size := by
  have hp : p ≠ 1 := by
    rintro rfl
    exact hr (Nat.mod_one n)
  rcases Nat.eq_zero_or_pos p with rfl | hpos
  · rw [Nat.div_zero]
    decide
  · have hle : n / p ≤ n / 2 := Nat.div_le_div_left (by omega) (by decide)
    have hsize : UInt64.size = 2 ^ 64 := rfl
    omega

theorem totalPages_toNat {v : View t} (hn : v.shown.length < UInt64.size) (hp : 1 ≤ v.perPage) :
    v.totalPages.toNat = max 1 (v.shown.length ⌈/⌉ v.perPage.toNat) := by
  have hpos : 0 < v.perPage.toNat := UInt64.le_iff_toNat_le.mp hp
  have hcount := count_toNat hn
  have hzero : v.count % v.perPage = 0 ↔ v.shown.length % v.perPage.toNat = 0 := by
    rw [← UInt64.toNat_inj, UInt64.toNat_mod, hcount]
    rfl
  rw [totalPages, UInt64.toNat_max, max_comm, ceilDiv_eq_ite _ hpos]
  congr 1
  simp only [hzero]
  split
  · rw [UInt64.toNat_div, hcount]
  · rename_i hr
    rw [UInt64.toNat_add, UInt64.toNat_div, hcount]
    exact Nat.mod_eq_of_lt (full_lt hn hr)

theorem one_le_totalPages (v : View t) : 1 ≤ v.totalPages := by
  rw [UInt64.le_iff_toNat_le, totalPages, UInt64.toNat_max]
  exact le_max_right _ _

theorem totalPages_congr {v w : View t} (hs : v.shown.length = w.shown.length)
    (hp : v.perPage = w.perPage) : v.totalPages = w.totalPages := by
  unfold totalPages count
  rw [hs, hp]

theorem clamp_page (v : View t) : 1 ≤ v.clamp.page ∧ v.clamp.page ≤ v.clamp.totalPages := by
  have htotal : v.clamp.totalPages = v.totalPages := totalPages_congr rfl rfl
  have hone := one_le_totalPages v
  rw [htotal, clamp]
  simp only [UInt64.le_iff_toNat_le, UInt64.lt_iff_toNat_lt] at *
  split
  · exact ⟨le_rfl, hone⟩
  · split <;> constructor <;> omega

end View

end PlanningSearch
