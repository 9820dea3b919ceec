import Mathlib.Algebra.Order.Field.Power
import Mathlib.Data.Int.Log
import Mathlib.Data.Rat.Floor
import Mathlib.Tactic.FieldSimp
import Mathlib.Tactic.Linarith
import Mathlib.Tactic.NormNum
import Mathlib.Tactic.Positivity
import Mathlib.Tactic.Ring
import PlanningSearch.Number.Binary64

/-!
Rounding to binary64 numbers. A quotient or a decimal number rounds to each number in whose basin
it is: the rationals within half a unit of the last place, or a quarter below a power of two. What
rounding gives is normal: at most 53 bits of mantissa, under the least possible exponent.
-/

namespace PlanningSearch.Binary64

structure Normal (x : Binary64) : Prop where
  mantissa_lt : x.mantissa < 2 ^ 53
  exponent_ge : -1074 ≤ x.exponent
  exponent_le : x.exponent ≤ 971
  least : x.exponent = -1074 ∨ 2 ^ 52 ≤ x.mantissa

theorem normal_zero (negative : Bool) : Normal ⟨negative, 0, -1074⟩ :=
  ⟨by norm_num, by norm_num, by norm_num, .inl rfl⟩

def Between (n : ℕ) (low t high : ℚ) : Prop :=
  if n % 2 = 0 then low ≤ t ∧ t ≤ high else low < t ∧ t < high

/-- How far the basin of a number goes down, in units of the last place. -/
def below (x : Binary64) : ℚ := if x.mantissa = 2 ^ 52 ∧ -1074 < x.exponent then 1 / 4 else 1 / 2

/-- The rationals that round to a number. -/
def Attracts (x : Binary64) (v : ℚ) : Prop :=
  Between x.mantissa (x.mantissa - x.below) (v / 2 ^ x.exponent) (x.mantissa + 1 / 2)

theorem zpow_eq_div (b : ℚ) (e : ℤ) : b ^ e = b ^ e.toNat / b ^ (-e).toNat := by
  obtain ⟨n, rfl | rfl⟩ := e.eq_nat_or_neg <;> simp

theorem scaled_eq (num den : ℕ) (e : ℤ) :
    ((num * Nat.pow 2 (-e).toNat : ℕ) : ℚ) / (den * Nat.pow 2 e.toNat : ℕ) =
      num / den / 2 ^ e := by
  rw [zpow_eq_div, div_div_div_eq]
  push_cast [Nat.pow_eq]
  rfl

theorem log2_le_log_div {num den : ℕ} (hnum : num ≠ 0) (hden : den ≠ 0) :
    (num.log2 : ℤ) - den.log2 - 1 ≤ Int.log 2 (num / den : ℚ) := by
  have hlow : (2 : ℚ) ^ (num.log2 : ℤ) ≤ num := by
    rw [zpow_natCast]
    exact_mod_cast Nat.log2_self_le hnum
  have hhigh : (den : ℚ) < 2 ^ (den.log2 + 1 : ℤ) := by
    exact_mod_cast Nat.lt_log2_self (n := den)
  rw [← Int.zpow_le_iff_le_log (by decide) (by positivity), Nat.cast_ofNat,
    le_div_iff₀ (by positivity)]
  calc (2 : ℚ) ^ ((num.log2 : ℤ) - den.log2 - 1) * den
      ≤ 2 ^ ((num.log2 : ℤ) - den.log2 - 1) * 2 ^ (den.log2 + 1 : ℤ) := by gcongr
    _ = 2 ^ (num.log2 : ℤ) := by rw [← zpow_add₀ two_ne_zero]; congr 1; ring
    _ ≤ num := hlow

theorem log_div_le_log2 {num den : ℕ} (hnum : num ≠ 0) (hden : den ≠ 0) :
    Int.log 2 (num / den : ℚ) < (num.log2 : ℤ) - den.log2 + 1 := by
  have hhigh : (num : ℚ) < 2 ^ (num.log2 + 1 : ℤ) := by
    exact_mod_cast Nat.lt_log2_self (n := num)
  have hlow : (2 : ℚ) ^ (den.log2 : ℤ) ≤ den := by
    rw [zpow_natCast]
    exact_mod_cast Nat.log2_self_le hden
  rw [← Int.lt_zpow_iff_log_lt (by decide) (by positivity), Nat.cast_ofNat,
    div_lt_iff₀ (by positivity)]
  calc (num : ℚ) < 2 ^ (num.log2 + 1 : ℤ) := hhigh
    _ = 2 ^ ((num.log2 : ℤ) - den.log2 + 1) * 2 ^ (den.log2 : ℤ) := by
      rw [← zpow_add₀ two_ne_zero]; congr 1; ring
    _ ≤ 2 ^ ((num.log2 : ℤ) - den.log2 + 1) * den := by gcongr

theorem leadingExponent_eq {num den : ℕ} (hnum : num ≠ 0) (hden : den ≠ 0) :
    leadingExponent num den = Int.log 2 (num / den : ℚ) := by
  have htest (e : ℤ) : num * Nat.pow 2 (-e).toNat ≥ den * Nat.pow 2 e.toNat ↔
      e ≤ Int.log 2 (num / den : ℚ) := by
    rw [← Int.zpow_le_iff_le_log (by decide) (by positivity), Nat.cast_ofNat, zpow_eq_div,
      div_le_div_iff₀ (by positivity) (by positivity), mul_comm den]
    exact_mod_cast Iff.rfl
  have hlow := log2_le_log_div hnum hden
  have hhigh := log_div_le_log2 hnum hden
  unfold leadingExponent
  simp only [htest]
  split_ifs <;> omega

theorem div_le_nearest (num den : ℕ) : num / den ≤ nearest num den := by
  unfold nearest
  dsimp only
  split_ifs <;> omega

theorem nearest_le_div_succ (num den : ℕ) : nearest num den ≤ num / den + 1 := by
  unfold nearest
  dsimp only
  split_ifs <;> omega

theorem half_le_iff {n num den : ℕ} (hden : den ≠ 0) :
    ((n - 1 / 2 : ℚ) ≤ num / den ↔ 2 * (n * den) ≤ 2 * num + den) ∧
      ((n - 1 / 2 : ℚ) < num / den ↔ 2 * (n * den) < 2 * num + den) := by
  have hpos : (0 : ℚ) < den := by positivity
  rw [le_div_iff₀ hpos, lt_div_iff₀ hpos, ← Nat.cast_le (α := ℚ), ← Nat.cast_lt (α := ℚ)]
  push_cast
  constructor <;> constructor <;> intro h <;> linarith

theorem le_half_iff {n num den : ℕ} (hden : den ≠ 0) :
    ((num / den : ℚ) ≤ n + 1 / 2 ↔ 2 * num ≤ 2 * (n * den) + den) ∧
      ((num / den : ℚ) < n + 1 / 2 ↔ 2 * num < 2 * (n * den) + den) := by
  have hpos : (0 : ℚ) < den := by positivity
  rw [div_le_iff₀ hpos, div_lt_iff₀ hpos, ← Nat.cast_le (α := ℚ), ← Nat.cast_lt (α := ℚ)]
  push_cast
  constructor <;> constructor <;> intro h <;> linarith

theorem nearest_eq {n num den : ℕ} (hden : den ≠ 0)
    (h : Between n (n - 1 / 2) (num / den) (n + 1 / 2)) : nearest num den = n := by
  simp only [Between, half_le_iff hden, le_half_iff hden] at h
  have hsplit := Nat.div_add_mod' num den
  have hmod := Nat.mod_lt num (Nat.pos_of_ne_zero hden)
  unfold nearest
  dsimp only
  generalize num / den = q at *
  generalize num % den = r at *
  -- the integer below the quotient or the next one, else the quotient is further off than a half
  have hn : n = q ∨ n = q + 1 := by
    by_contra hne
    rcases Nat.lt_or_gt_of_ne (mt Or.inl hne) with hlt | hgt
    · have := Nat.mul_le_mul_right den (Nat.succ_le_of_lt hlt)
      rw [Nat.succ_mul] at this
      split_ifs at h <;> omega
    · have hgt : q + 2 ≤ n := by omega
      have := Nat.mul_le_mul_right den hgt
      rw [Nat.add_mul] at this
      split_ifs at h <;> omega
  rcases hn with rfl | rfl
  · split_ifs at h ⊢ <;> omega
  · simp only [Nat.add_mul, Nat.one_mul] at h
    split_ifs at h ⊢ <;> omega

def unit (num den : ℕ) : ℤ := max (leadingExponent num den - 52) (-1074)

def rounded (num den : ℕ) : ℕ :=
  nearest (num * Nat.pow 2 (-unit num den).toNat) (den * Nat.pow 2 (unit num den).toNat)

theorem ofQuotient_eq {num : ℕ} (hnum : num ≠ 0) (negative : Bool) (den : ℕ) :
    ofQuotient negative num den =
      let fixed := if rounded num den = 2 ^ 53 then (2 ^ 52, unit num den + 1)
        else (rounded num den, unit num den)
      if fixed.2 > 971 then none else some ⟨negative, fixed.1, fixed.2⟩ := by
  rw [ofQuotient, if_neg hnum]
  rfl

theorem mul_pow_pos {den : ℕ} (hden : den ≠ 0) (k : ℕ) : 0 < den * Nat.pow 2 k :=
  Nat.mul_pos (Nat.pos_of_ne_zero hden) (Nat.two_pow_pos k)

section Units

variable {num den : ℕ} (hnum : num ≠ 0) (hden : den ≠ 0)

include hnum hden

theorem rounded_le : rounded num den ≤ 2 ^ 53 := by
  have hscaled : ((num / den : ℚ) / 2 ^ unit num den) < 2 ^ 53 := by
    rw [div_lt_iff₀ (by positivity)]
    calc (num / den : ℚ) < 2 ^ (leadingExponent num den + 1) := by
          rw [leadingExponent_eq hnum hden]
          exact_mod_cast Int.lt_zpow_succ_log_self (b := 2) (by decide) (num / den : ℚ)
      _ ≤ 2 ^ (53 + unit num den) := zpow_le_zpow_right₀ one_le_two (by unfold unit; omega)
      _ = 2 ^ 53 * 2 ^ unit num den := by rw [zpow_add₀ two_ne_zero]; norm_cast
  have hpos := mul_pow_pos hden (unit num den).toNat
  rw [← scaled_eq, div_lt_iff₀ (Nat.cast_pos.mpr hpos)] at hscaled
  refine (nearest_le_div_succ _ _).trans ((Nat.div_lt_iff_lt_mul hpos).mpr ?_)
  exact_mod_cast hscaled

theorem le_rounded (hunit : unit num den ≠ -1074) : 2 ^ 52 ≤ rounded num den := by
  have hscaled : 2 ^ 52 ≤ ((num / den : ℚ) / 2 ^ unit num den) := by
    rw [le_div_iff₀ (by positivity)]
    calc (2 : ℚ) ^ 52 * 2 ^ unit num den = 2 ^ (52 + unit num den) := by
          rw [zpow_add₀ two_ne_zero]; norm_cast
      _ ≤ 2 ^ leadingExponent num den := zpow_le_zpow_right₀ one_le_two (by unfold unit at *; omega)
      _ ≤ num / den := by
          rw [leadingExponent_eq hnum hden]
          exact Int.zpow_log_le_self (b := 2) (by decide) (div_pos (by positivity) (by positivity))
  have hpos := mul_pow_pos hden (unit num den).toNat
  rw [← scaled_eq, le_div_iff₀ (Nat.cast_pos.mpr hpos)] at hscaled
  refine ((Nat.le_div_iff_mul_le hpos).mpr ?_).trans (div_le_nearest _ _)
  exact_mod_cast hscaled

omit hnum in
theorem normal_of_ofQuotient {negative : Bool} {x : Binary64}
    (h : ofQuotient negative num den = some x) : x.Normal := by
  by_cases hnum : num = 0
  · rw [ofQuotient, if_pos hnum, Option.some.injEq] at h
    exact h ▸ normal_zero negative
  · have hle := rounded_le hnum hden
    have hge := le_rounded hnum hden
    have hunit : -1074 ≤ unit num den := le_max_right _ _
    rw [ofQuotient_eq hnum] at h
    dsimp only at h
    split_ifs at h with hcarry hlarge hlarge <;> cases h
    · exact ⟨by norm_num, by dsimp only; omega, by dsimp only; omega, .inr le_rfl⟩
    · exact ⟨by dsimp only; omega, hunit, by dsimp only at *; omega,
        (eq_or_ne (unit num den) (-1074)).imp_right hge⟩

end Units

theorem Between.le {n : ℕ} {low t high : ℚ} (h : Between n low t high) : low ≤ t ∧ t ≤ high := by
  unfold Between at h
  split_ifs at h
  · exact h
  · exact ⟨h.1.le, h.2.le⟩

theorem Between.mono {n : ℕ} {low low' t high : ℚ} (h : Between n low t high) (hlow : low' ≤ low) :
    Between n low' t high := by
  unfold Between at *
  split_ifs at h ⊢
  · exact ⟨hlow.trans h.1, h.2⟩
  · exact ⟨hlow.trans_lt h.1, h.2⟩

theorem below_le (x : Binary64) : x.below ≤ 1 / 2 := by
  unfold below
  split_ifs <;> norm_num

theorem below_pos (x : Binary64) : 0 < x.below := by
  unfold below
  split_ifs <;> norm_num

variable {x : Binary64} {v : ℚ}

theorem Attracts.bounds (h : x.Attracts v) :
    (x.mantissa - x.below) * 2 ^ x.exponent ≤ v ∧ v ≤ (x.mantissa + 1 / 2) * 2 ^ x.exponent := by
  obtain ⟨hlow, hhigh⟩ := Between.le h
  exact ⟨(le_div_iff₀ (by positivity)).mp hlow, (div_le_iff₀ (by positivity)).mp hhigh⟩

theorem Attracts.pos (hx : x.mantissa ≠ 0) (h : x.Attracts v) : 0 < v := by
  have hm : (1 : ℚ) ≤ x.mantissa := by exact_mod_cast Nat.one_le_iff_ne_zero.mpr hx
  have hbelow := x.below_le
  refine lt_of_lt_of_le (mul_pos ?_ (by positivity)) h.bounds.1
  linarith

section Basins

variable {num den : ℕ} (hnum : num ≠ 0) (hden : den ≠ 0)

include hnum hden

theorem zpow_le_div_iff (e : ℤ) : (2 : ℚ) ^ e ≤ num / den ↔ e ≤ leadingExponent num den := by
  rw [leadingExponent_eq hnum hden,
    ← Int.zpow_le_iff_le_log (by decide) (div_pos (by positivity) (by positivity)), Nat.cast_ofNat]

/-- A quotient is rounded in the units of the number in whose basin it is, or in half of them just
below a power of two. -/
theorem unit_of_attracts (hx : x.Normal) (h : x.Attracts (num / den)) :
    unit num den = x.exponent ∨ x.mantissa = 2 ^ 52 ∧ -1074 < x.exponent ∧
      (num / den : ℚ) < 2 ^ 52 * 2 ^ x.exponent ∧ unit num den = x.exponent - 1 := by
  obtain ⟨hlow, hhigh⟩ := h.bounds
  have hbelow := x.below_le
  have hupper : leadingExponent num den < x.exponent + 53 := by
    have hm : (x.mantissa : ℚ) + 1 ≤ 2 ^ 53 := by exact_mod_cast hx.mantissa_lt
    rw [← not_le, ← zpow_le_div_iff hnum hden, not_le, zpow_add₀ two_ne_zero, mul_comm]
    exact lt_of_le_of_lt hhigh (mul_lt_mul_of_pos_right (by linarith) (by positivity))
  have hge := hx.exponent_ge
  unfold unit
  rcases hx.least with hleast | hnormal
  · left
    omega
  by_cases hbinade : x.exponent + 52 ≤ leadingExponent num den
  · left
    omega
  -- only the quarter below a power of two is in the binade below that of the number
  have hbinade' := hbinade
  rw [← zpow_le_div_iff hnum hden, not_le, zpow_add₀ two_ne_zero, mul_comm] at hbinade'
  have hpow : x.mantissa = 2 ^ 52 := by
    have hlt := lt_of_mul_lt_mul_right (hlow.trans_lt hbinade') (by positivity)
    have hlt : (x.mantissa : ℚ) < 2 ^ 52 + 1 := by linarith
    have hlt : x.mantissa < 2 ^ 52 + 1 := by exact_mod_cast hlt
    omega
  have hlower : x.exponent + 51 ≤ leadingExponent num den := by
    rw [← zpow_le_div_iff hnum hden, zpow_add₀ two_ne_zero, mul_comm]
    refine le_trans (mul_le_mul_of_nonneg_right ?_ (by positivity)) hlow
    rw [hpow]
    push_cast
    linarith
  rcases eq_or_lt_of_le hge with heq | hgt
  · left
    omega
  · exact .inr ⟨hpow, hgt, hbinade', by omega⟩

omit hnum in
theorem rounded_eq {n : ℕ} (h : Between n (n - 1 / 2) (num / den / 2 ^ unit num den) (n + 1 / 2)) :
    rounded num den = n := by
  refine nearest_eq (mul_pow_pos hden _).ne' ?_
  rwa [scaled_eq]

/-- A quotient in the basin of a number rounds to it. -/
theorem ofQuotient_of_attracts (hx : x.Normal) (h : x.Attracts (num / den)) :
    ofQuotient x.negative num den = some x := by
  have hle := hx.exponent_le
  rw [ofQuotient_eq hnum]
  dsimp only
  rcases unit_of_attracts hnum hden hx h with hunit | ⟨hpow, hgt, hlt, hunit⟩
  · have hrounded : rounded num den = x.mantissa := by
      apply rounded_eq hden
      rw [hunit]
      exact Between.mono h (by linarith [x.below_le])
    rw [hrounded, if_neg hx.mantissa_lt.ne, hunit, if_neg (by dsimp only; omega)]
  · have hrounded : rounded num den = 2 ^ 53 := by
      apply rounded_eq hden
      have hhalf : (num / den : ℚ) / 2 ^ unit num den = 2 * (num / den / 2 ^ x.exponent) := by
        rw [hunit, zpow_sub_one₀ two_ne_zero]
        field_simp
      have hlow := (Between.le h).1
      rw [hpow, below, if_pos ⟨hpow, hgt⟩] at hlow
      rw [hhalf, Between, if_pos (by norm_num)]
      rw [← div_lt_iff₀ (by positivity)] at hlt
      push_cast at hlow ⊢
      constructor <;> linarith
    rw [if_pos hrounded, hunit, if_neg (by dsimp only; omega), ← hpow, sub_add_cancel]

end Basins

section Decimals

variable (hx : x.Normal) (hm : x.mantissa ≠ 0)

include hx

theorem lt_of_attracts (h : x.Attracts v) : v < 2 ^ (1024 : ℤ) := by
  have hm : (x.mantissa : ℚ) + 1 ≤ 2 ^ 53 := by exact_mod_cast hx.mantissa_lt
  calc v ≤ (x.mantissa + 1 / 2) * 2 ^ x.exponent := h.bounds.2
    _ < 2 ^ (53 : ℤ) * 2 ^ x.exponent :=
      mul_lt_mul_of_pos_right (by rw [zpow_ofNat]; linarith) (by positivity)
    _ ≤ 2 ^ (53 : ℤ) * 2 ^ (971 : ℤ) := by
      gcongr
      · exact one_le_two
      · exact hx.exponent_le
    _ = 2 ^ (1024 : ℤ) := (zpow_add₀ two_ne_zero _ _).symm

include hm

theorem le_of_attracts (h : x.Attracts v) : 2 ^ (-1075 : ℤ) ≤ v := by
  have hone : (1 : ℚ) ≤ x.mantissa := by exact_mod_cast Nat.one_le_iff_ne_zero.mpr hm
  have hbelow := x.below_le
  calc (2 : ℚ) ^ (-1075 : ℤ) = 2 ^ (-1 : ℤ) * 2 ^ (-1074 : ℤ) := by
        rw [← zpow_add₀ two_ne_zero]; rfl
    _ ≤ 2 ^ (-1 : ℤ) * 2 ^ x.exponent := by
      gcongr
      · exact one_le_two
      · exact hx.exponent_ge
    _ ≤ (x.mantissa - x.below) * 2 ^ x.exponent :=
      mul_le_mul_of_nonneg_right (by norm_num; linarith) (by positivity)
    _ ≤ v := h.bounds.1

variable {digits : ℕ} {exponent : ℤ}

omit hx in
theorem digits_ne_zero_of_attracts (h : x.Attracts (digits * 10 ^ exponent)) : digits ≠ 0 := by
  rintro rfl
  have hpos := h.pos hm
  simp at hpos

theorem exponent_lt_of_attracts (h : x.Attracts (digits * 10 ^ exponent)) : exponent < 400 := by
  have hone : (1 : ℚ) ≤ digits := by
    exact_mod_cast Nat.one_le_iff_ne_zero.mpr (digits_ne_zero_of_attracts hm h)
  have hlt := (le_mul_of_one_le_left (by positivity) hone).trans_lt (lt_of_attracts hx h)
  have hpow : (2 : ℚ) ^ (1024 : ℤ) ≤ 10 ^ (400 : ℤ) := by
    exact_mod_cast (by decide +kernel : 2 ^ 1024 ≤ 10 ^ 400)
  exact (zpow_lt_zpow_iff_right₀ (by norm_num)).mp (hlt.trans_le hpow)

theorem le_exponent_of_attracts (h : x.Attracts (digits * 10 ^ exponent)) :
    -1200 ≤ exponent + (digits.log2 + 1 : ℕ) := by
  by_contra hlt
  have hten : (10 : ℚ) ^ exponent ≤ 2 ^ exponent := by
    have htoNat : exponent.toNat = 0 := by omega
    rw [zpow_eq_div, zpow_eq_div 2, htoNat, pow_zero, pow_zero]
    gcongr
    norm_num
  have hwidth : (digits : ℚ) < 2 ^ ((digits.log2 + 1 : ℕ) : ℤ) := by
    exact_mod_cast Nat.lt_log2_self (n := digits)
  have hvalue := calc (digits : ℚ) * 10 ^ exponent
      ≤ 2 ^ ((digits.log2 + 1 : ℕ) : ℤ) * 2 ^ exponent := by gcongr
    _ = 2 ^ (((digits.log2 + 1 : ℕ) : ℤ) + exponent) := (zpow_add₀ two_ne_zero _ _).symm
  have := (zpow_le_zpow_iff_right₀ one_lt_two).mp ((le_of_attracts hx hm h).trans hvalue)
  omega

theorem ofDecimal_of_attracts (h : x.Attracts (digits * 10 ^ exponent)) :
    ofDecimal x.negative digits exponent = some x := by
  have hdigits := digits_ne_zero_of_attracts hm h
  have hlarge := exponent_lt_of_attracts hx hm h
  have hsmall := le_exponent_of_attracts hx hm h
  unfold ofDecimal
  rw [if_neg hdigits, if_neg (by omega), if_neg (by omega)]
  refine ofQuotient_of_attracts ?_ ?_ hx ?_
  · exact Nat.mul_ne_zero hdigits (Nat.pow_pos (by decide)).ne'
  · exact (Nat.pow_pos (by decide)).ne'
  · push_cast [Nat.pow_eq]
    rwa [mul_div_assoc, ← zpow_eq_div]

end Decimals

theorem normal_of_ofDecimal {negative : Bool} {digits : ℕ} {exponent : ℤ}
    (h : ofDecimal negative digits exponent = some x) : x.Normal := by
  unfold ofDecimal at h
  dsimp only at h
  split_ifs at h
  · cases h
    exact normal_zero negative
  · cases h
    exact normal_zero negative
  · exact normal_of_ofQuotient (Nat.pow_pos (by decide)).ne' h

end PlanningSearch.Binary64
