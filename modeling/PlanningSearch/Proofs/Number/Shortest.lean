import PlanningSearch.Number.Shortest
import PlanningSearch.Proofs.Number.Rounding

/-!
Shortest decimal digits. The digits found for a number are in its basin, so they round to the number
again; a grid is searched for every count of digits up to seventeen, and on the last grid there are
such digits, because its points are closer together than the ends of the basin.
-/

namespace PlanningSearch.Binary64

variable {x : Binary64}

theorem lt_pow_digitCount (n : ℕ) : n < 10 ^ digitCount n :=
  (Nat.length_toDigits_le_iff (by decide) Nat.length_toDigits_pos).mp le_rfl

theorem pow_digitCount_le {n : ℕ} (hn : n ≠ 0) : 10 ^ (digitCount n - 1) ≤ n := by
  rcases Nat.eq_zero_or_pos (digitCount n - 1) with hone | hmore
  · rw [hone]
    exact Nat.one_le_iff_ne_zero.mpr hn
  · rw [← not_lt, ← Nat.length_toDigits_le_iff (by decide) hmore]
    have hpos : 0 < digitCount n := Nat.length_toDigits_pos
    unfold digitCount at *
    omega

theorem pow_leadingDecimal_le {num den : ℕ} (hnum : num ≠ 0) (hden : den ≠ 0) :
    (10 : ℚ) ^ leadingDecimal num den ≤ num / den := by
  have hcount (n : ℕ) : 0 < digitCount n := Nat.length_toDigits_pos
  unfold leadingDecimal
  split_ifs with hle
  · have hq : num / den ≠ 0 := (Nat.div_pos hle (Nat.pos_of_ne_zero hden)).ne'
    have hexponent : (digitCount (num / den) : ℤ) - 1 = (digitCount (num / den) - 1 : ℕ) := by
      have := hcount (num / den)
      omega
    rw [hexponent, zpow_natCast, le_div_iff₀ (by positivity)]
    exact_mod_cast (Nat.mul_le_mul_right den (pow_digitCount_le hq)).trans (Nat.div_mul_le_self _ _)
  · have hlt := lt_pow_digitCount ((den + num - 1) / num - 1)
    generalize digitCount ((den + num - 1) / num - 1) = k at hlt ⊢
    have hceil : (den + num - 1) / num < 10 ^ k + 1 := by omega
    rw [Nat.div_lt_iff_lt_mul (Nat.pos_of_ne_zero hnum), Nat.add_mul, Nat.one_mul] at hceil
    rw [zpow_neg, zpow_natCast, inv_le_comm₀ (by positivity) (by positivity), inv_div,
      div_le_iff₀ (by positivity)]
    exact_mod_cast (by omega : den ≤ 10 ^ k * num)

def place (x : Binary64) (unit : ℤ) (d : ℕ) : ℚ := d * 10 ^ unit / 2 ^ x.exponent

theorem place_eq (x : Binary64) (unit : ℤ) (d : ℕ) :
    x.place unit d = (d * (Nat.pow 10 unit.toNat * (4 * x.den)) : ℕ) /
      (4 * (Nat.pow 2 x.exponent.toNat * Nat.pow 10 (-unit).toNat) : ℕ) := by
  unfold place den
  rw [zpow_eq_div, zpow_eq_div 2]
  push_cast [Nat.pow_eq]
  field_simp

theorem place_succ (x : Binary64) (unit : ℤ) (d : ℕ) :
    x.place unit (d + 1) = x.place unit d + 10 ^ unit / 2 ^ x.exponent := by
  unfold place
  push_cast
  ring

def stride (x : Binary64) (unit : ℤ) : ℕ := Nat.pow 10 unit.toNat * (4 * x.den)

def basinOn (x : Binary64) (unit : ℤ) : Basin where
  low := x.basin.low * Nat.pow 10 (-unit).toNat
  value := x.basin.value * Nat.pow 10 (-unit).toNat
  high := x.basin.high * Nat.pow 10 (-unit).toNat
  closed := x.basin.closed

theorem stride_pos (x : Binary64) (unit : ℤ) : 0 < x.stride unit :=
  Nat.mul_pos (Nat.pow_pos (by decide)) (Nat.mul_pos (by decide) (Nat.two_pow_pos _))

theorem scaled_le_iff (x : Binary64) (unit : ℤ) (d k : ℕ) :
    (k * Nat.pow 2 x.exponent.toNat * Nat.pow 10 (-unit).toNat ≤ d * x.stride unit ↔
      (k / 4 : ℚ) ≤ x.place unit d) ∧
    (d * x.stride unit ≤ k * Nat.pow 2 x.exponent.toNat * Nat.pow 10 (-unit).toNat ↔
      x.place unit d ≤ k / 4) := by
  have hpos : 0 < 4 * (Nat.pow 2 x.exponent.toNat * Nat.pow 10 (-unit).toNat) :=
    Nat.mul_pos (by decide) (Nat.mul_pos (Nat.two_pow_pos _) (Nat.pow_pos (by decide)))
  have hscale : (k / 4 : ℚ) * (4 * (Nat.pow 2 x.exponent.toNat * Nat.pow 10 (-unit).toNat) : ℕ) =
      (k * Nat.pow 2 x.exponent.toNat * Nat.pow 10 (-unit).toNat : ℕ) := by
    push_cast
    ring
  rw [place_eq, le_div_iff₀ (Nat.cast_pos.mpr hpos), div_le_iff₀ (Nat.cast_pos.mpr hpos), hscale,
    Nat.cast_le, Nat.cast_le]
  exact ⟨Iff.rfl, Iff.rfl⟩

theorem holds_basinOn_iff (hm : x.mantissa ≠ 0) (unit : ℤ) (d : ℕ) :
    (x.basinOn unit).holds (d * x.stride unit) = true ↔ x.Attracts (d * 10 ^ unit) := by
  have hlow : ((4 * x.mantissa - if x.mantissa = Nat.pow 2 52 ∧ -1074 < x.exponent then 1 else 2 :
      ℕ) : ℚ) / 4 = x.mantissa - x.below := by
    unfold below
    rw [Nat.cast_sub (by split_ifs <;> omega)]
    push_cast
    split_ifs <;> ring
  have hhigh : ((4 * x.mantissa + 2 : ℕ) : ℚ) / 4 = x.mantissa + 1 / 2 := by
    push_cast
    ring
  have hle := fun k => (x.scaled_le_iff unit d k).1
  have hge := fun k => (x.scaled_le_iff unit d k).2
  have hlt := fun k => not_iff_not.mpr (hge k)
  have hgt := fun k => not_iff_not.mpr (hle k)
  simp only [not_le] at hlt hgt
  unfold Basin.holds Attracts Between
  by_cases heven : x.mantissa % 2 = 0
  · rw [if_pos heven, if_pos (show (x.basinOn unit).closed = true from decide_eq_true heven),
      Bool.and_eq_true, decide_eq_true_eq, decide_eq_true_eq]
    exact and_congr (hlow ▸ hle _) (hhigh ▸ hge _)
  · rw [if_neg heven, if_neg (show (x.basinOn unit).closed ≠ true from mt of_decide_eq_true heven),
      Bool.and_eq_true, decide_eq_true_eq, decide_eq_true_eq]
    exact and_congr (hlow ▸ hlt _) (hhigh ▸ hgt _)

def floor (x : Binary64) (unit : ℤ) : ℕ := (x.basinOn unit).value / x.stride unit

theorem onGrid_cases (x : Binary64) (unit : ℤ) :
    (∃ d, x.onGrid unit = some d ∧ (x.basinOn unit).holds (d * x.stride unit) = true) ∨
      x.onGrid unit = none ∧ (x.basinOn unit).holds (x.floor unit * x.stride unit) = false ∧
        (x.basinOn unit).holds ((x.floor unit + 1) * x.stride unit) = false := by
  have heq : x.onGrid unit =
      let d := x.floor unit
      let lower := (x.basinOn unit).holds (d * x.stride unit)
      let upper := (x.basinOn unit).holds ((d + 1) * x.stride unit)
      let r := (x.basinOn unit).value % x.stride unit
      if lower && upper then
        some (if 2 * r < x.stride unit then d else if x.stride unit < 2 * r then d + 1
          else d + d % 2)
      else if lower then some d
      else if upper then some (d + 1)
      else none := rfl
  rw [heq]
  dsimp only
  generalize x.floor unit = d
  cases hlower : (x.basinOn unit).holds (d * x.stride unit) <;>
    cases hupper : (x.basinOn unit).holds ((d + 1) * x.stride unit)
  · exact .inr ⟨rfl, rfl, rfl⟩
  · exact .inl ⟨d + 1, rfl, hupper⟩
  · exact .inl ⟨d, rfl, hlower⟩
  · refine .inl ⟨_, rfl, ?_⟩
    split_ifs
    · exact hlower
    · exact hupper
    · rcases Nat.mod_two_eq_zero_or_one d with heven | hodd
      · rwa [heven]
      · rwa [hodd]

theorem place_floor_le (x : Binary64) (unit : ℤ) : x.place unit (x.floor unit) ≤ x.mantissa := by
  have h := (x.scaled_le_iff unit (x.floor unit) (4 * x.mantissa)).2.mp (Nat.div_mul_le_self _ _)
  push_cast at h
  linarith

theorem lt_place_floor (x : Binary64) (unit : ℤ) :
    x.mantissa < x.place unit (x.floor unit + 1) := by
  have hvalue : (x.basinOn unit).value < (x.floor unit + 1) * x.stride unit := by
    rw [Nat.mul_comm]
    exact Nat.lt_mul_div_succ _ (x.stride_pos unit)
  have h := not_iff_not.mpr (x.scaled_le_iff unit (x.floor unit + 1) (4 * x.mantissa)).2
  rw [not_le, not_le] at h
  have h := h.mp hvalue
  push_cast at h
  linarith

theorem attracts_of_lt {v : ℚ} (hlow : x.mantissa - x.below < v / 2 ^ x.exponent)
    (hhigh : v / 2 ^ x.exponent < x.mantissa + 1 / 2) : x.Attracts v := by
  unfold Attracts Between
  split_ifs
  · exact ⟨hlow.le, hhigh.le⟩
  · exact ⟨hlow, hhigh⟩

/-- A grid finer than the basin has a point in it. -/
theorem onGrid_isSome (hm : x.mantissa ≠ 0) {unit : ℤ}
    (hfine : (10 : ℚ) ^ unit / 2 ^ x.exponent < x.below + 1 / 2) :
    (x.onGrid unit).isSome = true := by
  rcases x.onGrid_cases unit with ⟨d, hsome, -⟩ | ⟨-, hlower, hupper⟩
  · rw [hsome]
    rfl
  · rw [← Bool.not_eq_true, holds_basinOn_iff hm] at hlower hupper
    exfalso
    have hfloor := x.place_floor_le unit
    have hnext := x.lt_place_floor unit
    have hsucc := x.place_succ unit (x.floor unit)
    -- the two points next to the number are outside, so they are further apart than the ends
    have hlow : x.place unit (x.floor unit) ≤ x.mantissa - x.below := by
      by_contra hlt
      exact hlower (attracts_of_lt (not_le.mp hlt) (by unfold place at hfloor; linarith))
    have hhigh : x.mantissa + 1 / 2 ≤ x.place unit (x.floor unit + 1) := by
      by_contra hlt
      have hbelow := x.below_pos
      exact hupper (attracts_of_lt (by unfold place at hnext; linarith) (not_le.mp hlt))
    linarith

theorem attracts_of_onGrid (hm : x.mantissa ≠ 0) {unit : ℤ} {d : ℕ} (h : x.onGrid unit = some d) :
    x.Attracts (d * 10 ^ unit) := by
  rcases x.onGrid_cases unit with ⟨d', hsome, hholds⟩ | ⟨hnone, -⟩
  · rw [h, Option.some.injEq] at hsome
    subst hsome
    exact (holds_basinOn_iff hm unit d).mp hholds
  · rw [h] at hnone
    cases hnone

/-- Seventeen digits tell all numbers apart. -/
theorem seventeenth_grid_fine (hx : x.Normal) (hm : x.mantissa ≠ 0) :
    (10 : ℚ) ^ (leadingDecimal x.num x.den + 1 - 17) / 2 ^ x.exponent < x.below + 1 / 2 := by
  have hvalue : (x.num / x.den : ℚ) = x.mantissa * 2 ^ x.exponent := by
    unfold num den
    rw [zpow_eq_div]
    push_cast [Nat.pow_eq]
    rw [mul_div_assoc]
  have hnum : x.num ≠ 0 := Nat.mul_ne_zero hm (Nat.two_pow_pos _).ne'
  have hden : x.den ≠ 0 := (Nat.two_pow_pos _).ne'
  have hlead := pow_leadingDecimal_le hnum hden
  have hsplit : (10 : ℚ) ^ (leadingDecimal x.num x.den + 1 - 17) =
      10 ^ leadingDecimal x.num x.den / 10 ^ 16 := by
    rw [show leadingDecimal x.num x.den + 1 - 17 = leadingDecimal x.num x.den - 16 by ring,
      zpow_sub₀ (by norm_num)]
    norm_num
  rw [hvalue] at hlead
  rw [div_lt_iff₀ (by positivity), hsplit, div_lt_iff₀ (by positivity)]
  refine hlead.trans_lt ?_
  rw [mul_right_comm]
  refine mul_lt_mul_of_pos_right ?_ (by positivity)
  -- the mantissa has at most 53 bits, which is less than sixteen digits
  unfold below
  split_ifs with hpow
  · rw [hpow.1]
    norm_num
  · have hlt : (x.mantissa : ℚ) < 2 ^ 53 := by exact_mod_cast hx.mantissa_lt
    norm_num at hlt ⊢
    linarith

theorem attracts_of_firstGrid (hm : x.mantissa ≠ 0) {lead : ℤ} {last : ℕ}
    (hlast : (x.onGrid (lead + 1 - last)).isSome = true) {fuel n : ℕ} (hle : n ≤ last)
    (hfuel : last < n + fuel) :
    x.Attracts ((firstGrid x lead fuel n).1 * 10 ^ (firstGrid x lead fuel n).2) := by
  induction fuel generalizing n with
  | zero => omega
  | succ fuel ih =>
    unfold firstGrid
    cases hgrid : x.onGrid (lead + 1 - n) with
    | some d =>
      simp only [hgrid]
      exact attracts_of_onGrid hm hgrid
    | none =>
      have hne : n ≠ last := by
        rintro rfl
        rw [hgrid] at hlast
        cases hlast
      simp only [hgrid]
      exact ih (by omega) (by omega)

theorem dropZeros_value (fuel digits : ℕ) (unit : ℤ) :
    ((dropZeros fuel digits unit).1 : ℚ) * 10 ^ (dropZeros fuel digits unit).2 =
      digits * 10 ^ unit := by
  induction fuel generalizing digits unit with
  | zero => rfl
  | succ fuel ih =>
    unfold dropZeros
    split_ifs with hzero
    · have hdigits : digits = digits / 10 * 10 := by omega
      rw [ih, zpow_add_one₀ (by norm_num)]
      nth_rewrite 2 [hdigits]
      push_cast
      ring
    · rfl

/-- The shortest digits are those of a decimal number that rounds to the number. -/
theorem attracts_shortest (hx : x.Normal) (hm : x.mantissa ≠ 0) :
    x.Attracts (x.shortest.1 * 10 ^ x.shortest.2) := by
  have hlast : (x.onGrid (leadingDecimal x.num x.den + 1 - (17 : ℕ))).isSome = true :=
    onGrid_isSome hm (seventeenth_grid_fine hx hm)
  unfold shortest
  rw [dropZeros_value]
  exact attracts_of_firstGrid hm hlast (by decide) (by decide)

theorem shortest_ne_zero (hx : x.Normal) (hm : x.mantissa ≠ 0) : x.shortest.1 ≠ 0 := by
  intro hzero
  have hpos := (attracts_shortest hx hm).pos hm
  simp [hzero] at hpos

end PlanningSearch.Binary64
