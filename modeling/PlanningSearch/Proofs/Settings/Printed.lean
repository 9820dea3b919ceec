import PlanningSearch.Proofs.Json.Tokens
import PlanningSearch.Proofs.Settings.Numerals

/-!
Texts of numbers. The text of an integer reads as that integer and the text of a binary64 number as
that number, so a number survives being written out and read. A text that reads as an integer is not
always the text of that integer, but the text of a binary64 number is, negative zero apart.
-/

namespace PlanningSearch.Settings

open Binary64

namespace Real

theorem digits_toDigits (n : ℕ) : Digits (Nat.toDigits 10 n) :=
  fun _ hc => Json.isDigit_toDigits hc

theorem digits_zeros (k : ℕ) : Digits (zeros k) := fun c hc => by
  rw [List.eq_of_mem_replicate hc]
  rfl

theorem decimal_eq (cs : List Char) : decimal cs = Nat.ofDigitChars 10 cs 0 := by
  unfold decimal Nat.ofDigitChars
  simp only [Nat.mul_comm]

theorem decimal_toDigits (n : ℕ) : decimal (Nat.toDigits 10 n) = n := by
  rw [decimal_eq, Nat.ofDigitChars_ten_toDigits]

theorem toDigits_mul_pow {n : ℕ} (hn : n ≠ 0) (k : ℕ) :
    Nat.toDigits 10 (n * 10 ^ k) = Nat.toDigits 10 n ++ zeros k := by
  induction k with
  | zero => simp [zeros]
  | succ k ih =>
    have hpos : 0 < n * 10 ^ k := Nat.mul_pos (Nat.pos_of_ne_zero hn) (Nat.pow_pos (by decide))
    have happend := Nat.toDigits_append_toDigits (d := 0) (by decide) hpos (by decide : 0 < 10)
    rw [Nat.pow_succ, ← Nat.mul_assoc, Nat.mul_comm, ← Nat.add_zero (10 * _), ← happend, ih,
      List.append_assoc]
    exact congrArg _ (List.replicate_succ' ..).symm

theorem decimal_zeros (k : ℕ) (cs : List Char) : decimal (zeros k ++ cs) = decimal cs := by
  induction k with
  | zero => rfl
  | succ k ih => exact ih

/-- The digits of a number, written out with the point that their place asks for. -/
def layout (n : ℕ) (unit : ℤ) : List Char :=
  layoutPositional plainStyle (Nat.toDigits 10 n) unit
    (unit + ((Nat.toDigits 10 n).length : ℤ) - 1)

theorem layout_of_integral {n : ℕ} (hn : n ≠ 0) {unit : ℤ} (hunit : 0 ≤ unit) :
    layout n unit = Nat.toDigits 10 (n * 10 ^ unit.toNat) := by
  unfold layout layoutPositional
  rw [if_pos hunit, toDigits_mul_pow hn]
  exact List.append_nil _

theorem layout_of_fraction {n : ℕ} {unit : ℤ} (hunit : unit < 0) :
    ∃ whole digits, layout n unit = whole ++ '.' :: digits ∧ Digits whole ∧ whole ≠ [] ∧
      Digits digits ∧ decimal (whole ++ digits) = n ∧ (digits.length : ℤ) = -unit := by
  have hdigits := digits_toDigits n
  have hlength : 0 < (Nat.toDigits 10 n).length := Nat.length_toDigits_pos
  unfold layout layoutPositional
  rw [if_neg (by omega)]
  split_ifs with hlead
  · generalize hcount : (unit + ((Nat.toDigits 10 n).length : ℤ) - 1 + 1).toNat = count
    refine ⟨_, _, rfl, fun c hc => hdigits c (List.mem_of_mem_take hc), ?_,
      fun c hc => hdigits c (List.mem_of_mem_drop hc), ?_, ?_⟩
    · simp
      omega
    · rw [List.take_append_drop, decimal_toDigits]
    · simp
      omega
  · refine ⟨zeros 1, zeros _ ++ Nat.toDigits 10 n, rfl, digits_zeros 1, List.cons_ne_nil _ _,
      ?_, ?_, ?_⟩
    · intro c hc
      exact (List.mem_append.mp hc).elim (digits_zeros _ c) (hdigits c)
    · rw [decimal_zeros, decimal_zeros, decimal_toDigits]
    · simp [zeros]
      omega

section Finite

variable {x : Binary64} (hx : x.Normal)

include hx

theorem ofParts_of_attracts (hm : x.mantissa ≠ 0) {whole digits : List Char}
    (h : x.Attracts (decimal (whole ++ digits) * 10 ^ (0 - (digits.length : ℤ)))) :
    ofParts x.negative whole digits 0 = finite x := by
  unfold ofParts
  rw [ofDecimal_of_attracts hx hm h]

theorem ofUnsigned?_layout (hm : x.mantissa ≠ 0) :
    ofUnsigned? x.negative (layout x.shortest.1 x.shortest.2) = some (finite x) := by
  have hattracts := attracts_shortest hx hm
  have hne := shortest_ne_zero hx hm
  have hend : Stops [] := nofun
  generalize x.shortest.1 = n at *
  generalize x.shortest.2 = unit at *
  rcases le_or_gt 0 unit with hunit | hunit
  · rw [layout_of_integral hne hunit]
    have hread := ofUnsigned?_whole x.negative (digits_toDigits (n * 10 ^ unit.toNat))
      Nat.toDigits_ne_nil hend nofun
    rw [List.append_nil] at hread
    rw [hread, withPower?, ofParts_of_attracts hx hm]
    obtain ⟨k, rfl⟩ := Int.eq_ofNat_of_zero_le hunit
    rw [List.append_nil, decimal_toDigits]
    simpa using hattracts
  · obtain ⟨whole, digits, heq, hwhole, hne, hdigits, hvalue, hlength⟩ := layout_of_fraction hunit
    have hread := ofUnsigned?_pointed x.negative hwhole hdigits (.inl hne) hend
    rw [List.append_nil] at hread
    rw [heq, hread, withPower?, ofParts_of_attracts hx hm]
    rwa [hvalue, hlength, zero_sub, neg_neg]

end Finite

def body (x : Binary64) : List Char :=
  if x.mantissa = 0 then ['0'] else layout x.shortest.1 x.shortest.2

theorem exists_digit_body {x : Binary64} (hx : x.Normal) :
    ∃ c rest, body x = c :: rest ∧ isDigit c = true := by
  unfold body
  split_ifs with hm
  · exact ⟨'0', [], rfl, rfl⟩
  · rcases le_or_gt 0 x.shortest.2 with hunit | hunit
    · obtain ⟨c, rest, hdigits⟩ := List.exists_cons_of_ne_nil
        (Nat.toDigits_ne_nil (n := x.shortest.1 * 10 ^ x.shortest.2.toNat) (b := 10))
      rw [layout_of_integral (shortest_ne_zero hx hm) hunit, hdigits]
      exact ⟨c, rest, rfl, digits_toDigits _ c (hdigits ▸ List.mem_cons_self)⟩
    · obtain ⟨whole, digits, heq, hwhole, hne, -⟩ := layout_of_fraction (n := x.shortest.1) hunit
      obtain ⟨c, rest, rfl⟩ := List.exists_cons_of_ne_nil hne
      exact ⟨c, _, heq, hwhole c List.mem_cons_self⟩

theorem toList_render (x : Binary64) :
    (finite x).render.toList = if x.negative then '-' :: body x else body x :=
  String.toList_ofList

theorem ofUnsigned?_body {x : Binary64} (hx : x.Normal) :
    ofUnsigned? x.negative (body x) = some (finite x) := by
  unfold body
  split_ifs with hm
  · have hexponent : x.exponent = -1074 :=
      hx.least.resolve_right fun h => by omega
    change some (finite ⟨x.negative, 0, -1074⟩) = _
    rw [← hm, ← hexponent]
  · exact ofUnsigned?_layout hx hm

theorem signless_body {x : Binary64} (hx : x.Normal) : Signless (body x) := by
  obtain ⟨c, rest, heq, hdigit⟩ := exists_digit_body hx
  rw [heq]
  exact signless_of_digit hdigit rest

theorem signs_render {x : Binary64} (hx : x.Normal) :
    hasMinus (finite x).render.toList = x.negative ∧
      unsigned (finite x).render.toList = body x := by
  have hsignless := signless_body hx
  rw [toList_render]
  split_ifs with hnegative
  · exact ⟨hnegative.symm, rfl⟩
  · rw [Bool.not_eq_true] at hnegative
    exact ⟨hnegative ▸ beq_eq_false_iff_ne.mpr hsignless.1, unsigned_of_signless hsignless⟩

def Normal : Real → Prop
  | finite x => x.Normal
  | infinite _ => True
  | nan => True

theorem ofText?_render {r : Real} (hr : r.Normal) : ofText? r.render = some r := by
  cases r with
  | finite x =>
    obtain ⟨hnegative, hunsigned⟩ := signs_render hr
    rw [ofText?_eq, hnegative, hunsigned, ofUnsigned?_body hr]
  | infinite negative => cases negative <;> rfl
  | nan => rfl

theorem normal_ofParts (negative : Bool) (whole digits : List Char) (exponent : ℤ) :
    (ofParts negative whole digits exponent).Normal := by
  unfold ofParts
  split
  · exact normal_of_ofDecimal ‹_›
  · trivial

theorem normal_of_withPower? {negative : Bool} {whole digits cs : List Char} {r : Real}
    (h : withPower? negative whole digits cs = some r) : r.Normal := by
  revert h
  fun_cases withPower? negative whole digits cs with
  | case1 =>
    rintro ⟨⟩
    exact normal_ofParts ..
  | case2 rest =>
    intro h
    obtain ⟨exponent, -, rfl⟩ := Option.map_eq_some_iff.mp h
    exact normal_ofParts ..
  | case3 rest =>
    intro h
    obtain ⟨exponent, -, rfl⟩ := Option.map_eq_some_iff.mp h
    exact normal_ofParts ..
  | case4 =>
    intro h
    cases h

theorem normal_of_ofText? {s : String} {r : Real} (h : ofText? s = some r) : r.Normal := by
  rw [ofText?_eq, ofUnsigned?_eq] at h
  dsimp only at h
  split_ifs at h
  · unfold named? at h
    split at h <;> cases h <;> trivial
  · exact normal_of_withPower? h

end Real

open PlanningSearch.Settings.Real

def Fits (i : ℤ) : Prop := Int64.minValue.toInt ≤ i ∧ i ≤ Int64.maxValue.toInt

instance : DecidablePred Fits := fun _ => inferInstanceAs (Decidable (_ ∧ _))

def fitting? (i : ℤ) : Option ℤ := if Fits i then some i else none

theorem fitting?_eq_some_iff {i j : ℤ} : fitting? i = some j ↔ Fits j ∧ j = i := by
  unfold fitting?
  split_ifs with h
  · rw [Option.some.injEq]
    exact ⟨by rintro rfl; exact ⟨h, rfl⟩, fun h => h.2.symm⟩
  · exact iff_of_false nofun (by rintro ⟨hj, rfl⟩; exact h hj)

theorem int64?_eq (s : String) :
    int64? s = (magnitude? (unsigned s.toList)).bind fun n =>
      fitting? (signed (hasMinus s.toList) n) := by
  have hread (sign : ℤ) (cs : List Char) :
      (if cs.isEmpty || !cs.all isDigit then none else fitting? (sign * decimal cs)) =
        (magnitude? cs).bind fun n => fitting? (sign * n) := by
    unfold magnitude?
    split_ifs <;> rfl
  refine (bySign_eq
    (fun cs => if cs.isEmpty || !cs.all isDigit then none else fitting? (-1 * decimal cs))
    (fun cs => if cs.isEmpty || !cs.all isDigit then none else fitting? (1 * decimal cs))
    s.toList).trans ?_
  rw [hread, hread]
  cases hasMinus s.toList <;> simp [signed]

theorem int64?_eq_some_iff (s : String) (i : ℤ) :
    int64? s = some i ↔ unsigned s.toList ≠ [] ∧ Digits (unsigned s.toList) ∧ Fits i ∧
      i = signed (hasMinus s.toList) (decimal (unsigned s.toList)) := by
  rw [int64?_eq, Option.bind_eq_some_iff]
  simp only [magnitude?_eq_some_iff, fitting?_eq_some_iff]
  constructor
  · rintro ⟨_, ⟨hne, hdigits, rfl⟩, hfits⟩
    exact ⟨hne, hdigits, hfits⟩
  · rintro ⟨hne, hdigits, hfits⟩
    exact ⟨_, ⟨hne, hdigits, rfl⟩, hfits⟩

theorem toList_toString (i : ℤ) :
    (toString i).toList =
      if i < 0 then '-' :: Nat.toDigits 10 i.natAbs else Nat.toDigits 10 i.natAbs := by
  cases i with
  | ofNat n => exact Nat.toList_repr
  | negSucc n =>
    rw [if_pos (Int.negSucc_lt_zero n)]
    exact (String.toList_append ..).trans (congrArg ('-' :: ·) Nat.toList_repr)

theorem signs_toString (i : ℤ) :
    hasMinus (toString i).toList = decide (i < 0) ∧
      unsigned (toString i).toList = Nat.toDigits 10 i.natAbs := by
  have hsignless := signless_digits (digits_toDigits i.natAbs)
  rw [toList_toString]
  split_ifs with hneg
  · exact ⟨by simp [hasMinus, hneg], rfl⟩
  · exact ⟨by simp [hasMinus, hneg, hsignless.1], unsigned_of_signless hsignless⟩

theorem int64?_toString {i : ℤ} (hi : Fits i) : int64? (toString i) = some i := by
  obtain ⟨hnegative, hunsigned⟩ := signs_toString i
  rw [int64?_eq_some_iff, hnegative, hunsigned]
  refine ⟨Nat.toDigits_ne_nil, digits_toDigits _, hi, ?_⟩
  rw [decimal_toDigits, signed]
  split_ifs with h <;> simp at h <;> omega

theorem body_eq_toDigits {x : Binary64} (hx : x.Normal) (h : Digits (body x)) :
    ∃ k, body x = Nat.toDigits 10 k := by
  unfold body at *
  split_ifs at h ⊢ with hm
  · exact ⟨0, rfl⟩
  · rcases le_or_gt 0 x.shortest.2 with hunit | hunit
    · exact ⟨_, layout_of_integral (shortest_ne_zero hx hm) hunit⟩
    · obtain ⟨whole, digits, heq, -⟩ := layout_of_fraction (n := x.shortest.1) hunit
      rw [heq] at h
      exact absurd (h '.' (List.mem_append_right _ List.mem_cons_self)) (by decide)

theorem toList_toString_signed {minus : Bool} {k : ℕ} (hk : minus = true → k ≠ 0) :
    (toString (signed minus k)).toList =
      if minus then '-' :: Nat.toDigits 10 k else Nat.toDigits 10 k := by
  cases minus with
  | true =>
    have hpos := Nat.pos_of_ne_zero (hk rfl)
    have hneg : signed true k < 0 := neg_lt_zero.mpr (Nat.cast_pos.mpr hpos)
    rw [toList_toString, if_pos hneg, if_pos rfl, signed, if_pos rfl, Int.natAbs_neg,
      Int.natAbs_natCast]
  | false =>
    have hge : ¬ signed false k < 0 := not_lt.mpr (Nat.cast_nonneg k)
    rw [toList_toString, if_neg hge, if_neg Bool.false_ne_true, signed, if_neg Bool.false_ne_true,
      Int.natAbs_natCast]

/-- The text of a number that reads as an integer is the text of the integer, unless it is that of
negative zero. -/
theorem toString_of_int64?_render {r : Real} (hr : r.Normal) {i : ℤ}
    (h : int64? r.render = some i) (hzero : r.render ≠ "-0") : toString i = r.render := by
  cases r with
  | finite x =>
    obtain ⟨hnegative, hunsigned⟩ := signs_render hr
    rw [int64?_eq_some_iff, hnegative, hunsigned] at h
    obtain ⟨-, hdigits, -, rfl⟩ := h
    obtain ⟨k, hk⟩ := body_eq_toDigits hr hdigits
    have hk0 : x.negative = true → k ≠ 0 := by
      rintro htrue rfl
      refine hzero (String.toList_inj.mp ?_)
      rw [toList_render, if_pos htrue, hk]
      rfl
    rw [← String.toList_inj, toList_render, hk, decimal_toDigits, toList_toString_signed hk0]
  | infinite negative => cases negative <;> cases h
  | nan => cases h

end PlanningSearch.Settings
