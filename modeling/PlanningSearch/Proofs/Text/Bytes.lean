import Mathlib.Data.Char
import Mathlib.Data.Nat.Basic
import Mathlib.Tactic.SplitIfs

/-!
The order of texts by code points is the order of their UTF-8 bytes. Of two characters the one with
the smaller code point is written with the smaller bytes: a shorter form starts with a smaller byte,
and in forms of one length the bytes are the digits of the code point.
-/

namespace PlanningSearch.Text

def bytes (s : String) : List UInt8 := s.toUTF8.data.toList

theorem bytes_eq (s : String) : bytes s = s.toList.flatMap String.utf8EncodeChar := by
  rw [bytes, String.toUTF8, ← String.utf8Encode_toList, List.utf8Encode,
    List.toList_data_toByteArray]

theorem compare_ofNat {m n : ℕ} (hm : m < 256) (hn : n < 256) :
    compare (UInt8.ofNat m) (UInt8.ofNat n) = compare m n := by
  have hm' : (UInt8.ofNat m).toNat = m := UInt8.toNat_ofNat_of_lt' hm
  have hn' : (UInt8.ofNat n).toNat = n := UInt8.toNat_ofNat_of_lt' hn
  change compareOfLessAndEq _ _ = compareOfLessAndEq _ _
  simp only [compareOfLessAndEq, UInt8.lt_iff_toNat_lt, ← UInt8.toNat_inj, hm', hn']

theorem compare_utf8EncodeChar_of_lt {c d : Char} (h : c < d) (xs ys : List UInt8) :
    compare (String.utf8EncodeChar c ++ xs) (String.utf8EncodeChar d ++ ys) = .lt := by
  have hlt : c.val.toNat < d.val.toNat := UInt32.lt_iff_toNat_lt.mp h
  have hmax : d.val.toNat < 0x110000 := by
    rcases d.valid with hlow | hhigh
    · exact Nat.lt_trans hlow (by decide)
    · exact hhigh.2
  unfold String.utf8EncodeChar
  generalize c.val.toNat = m at *
  generalize d.val.toNat = n at *
  have hshift (i : ℕ) : i / 4096 = i / 64 / 64 ∧ i / 262144 = i / 64 / 64 / 64 := by omega
  simp only [(hshift m).1, (hshift m).2, (hshift n).1, (hshift n).2]
  -- the codes differ in their last digit to the base 64 or in what is in front of it
  have hdigit (i j : ℕ) (hij : i < j) : i / 64 < j / 64 ∨ i / 64 = j / 64 ∧ i % 64 < j % 64 := by
    omega
  have hlast := hdigit m n hlt
  have hthird := hdigit (m / 64) (n / 64)
  have hsecond := hdigit (m / 64 / 64) (n / 64 / 64)
  split_ifs
  all_goals try omega
  all_goals
    simp (disch := omega) only [List.cons_append, List.compare_cons_cons, compare_ofNat,
      Ordering.then_eq_lt, Nat.compare_eq_lt, Nat.compare_eq_eq]
    omega

theorem compare_append_left (bs xs ys : List UInt8) :
    compare (bs ++ xs) (bs ++ ys) = compare xs ys := by
  induction bs with
  | nil => rfl
  | cons b bs ih =>
    have hself : compare b b = .eq := Std.ReflCmp.compare_self
    rw [List.cons_append, List.cons_append, List.compare_cons_cons, ih, hself]
    rfl

theorem compareOfLessAndEq_cons (c d : Char) (cs ds : List Char) :
    compareOfLessAndEq (c :: cs) (d :: ds) =
      (compareOfLessAndEq c d).then (compareOfLessAndEq cs ds) := by
  rcases Std.lt_trichotomy c d with hlt | rfl | hgt
  · simp [compareOfLessAndEq, List.cons_lt_cons_iff, hlt]
  · simp [compareOfLessAndEq]
  · have hne : c ≠ d := (Std.ne_of_lt hgt).symm
    simp [compareOfLessAndEq, List.cons_lt_cons_iff, Std.not_gt_of_lt hgt, hne]

theorem compare_flatMap_utf8EncodeChar (cs ds : List Char) :
    compare (cs.flatMap String.utf8EncodeChar) (ds.flatMap String.utf8EncodeChar) =
      compareOfLessAndEq cs ds := by
  induction cs generalizing ds with
  | nil =>
    cases ds with
    | nil => rfl
    | cons d ds =>
      obtain ⟨b, bs, hb⟩ := List.exists_cons_of_ne_nil (String.utf8EncodeChar_ne_nil (c := d))
      rw [List.flatMap_cons, hb]
      rfl
  | cons c cs ih =>
    cases ds with
    | nil =>
      obtain ⟨b, bs, hb⟩ := List.exists_cons_of_ne_nil (String.utf8EncodeChar_ne_nil (c := c))
      rw [List.flatMap_cons, hb]
      rfl
    | cons d ds =>
      rw [List.flatMap_cons, List.flatMap_cons, compareOfLessAndEq_cons, ← ih]
      rcases Std.lt_trichotomy c d with hlt | rfl | hgt
      · rw [compare_utf8EncodeChar_of_lt hlt, compareOfLessAndEq_eq_lt.mpr hlt]
        rfl
      · rw [compare_append_left, compareOfLessAndEq, if_neg (Std.lt_irrefl), if_pos rfl]
        rfl
      · have hswap (xs ys : List UInt8) : compare xs ys = (compare ys xs).swap :=
          Std.OrientedCmp.eq_swap
        rw [hswap, compare_utf8EncodeChar_of_lt hgt]
        simp [compareOfLessAndEq, Std.not_gt_of_lt hgt, (Std.ne_of_lt hgt).symm]

theorem compare_bytes (a b : String) : compare (bytes a) (bytes b) = compare a b := by
  rw [bytes_eq, bytes_eq, compare_flatMap_utf8EncodeChar]
  change _ = compareOfLessAndEq a b
  simp only [compareOfLessAndEq, String.lt_iff, String.toList_inj]

end PlanningSearch.Text
