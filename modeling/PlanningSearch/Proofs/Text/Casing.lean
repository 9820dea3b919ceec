import Mathlib.Data.List.Infix
import PlanningSearch.Text.Casing
import PlanningSearch.Text.Infix

/-!
Names in lower-cased text. Beyond ASCII only the Kelvin sign, which becomes the letter k, and the
dotted capital I, which becomes the letter i and a dot above, have ASCII characters in their
lower-case form. So an ASCII name without the letter k that stands before a colon in the lower-cased
text stands before that colon in the text itself, up to the case of A to Z.
-/

namespace PlanningSearch.Text

theorem asciiLower_cases (c : Char) :
    asciiLower c = c ∨ (65 ≤ c.toNat ∧ c.toNat ≤ 90 ∧ (asciiLower c).toNat = c.toNat + 32) := by
  unfold asciiLower Char.toLower
  split
  · rename_i h
    have hge : 65 ≤ c.toNat := h.1
    have hle : c.toNat ≤ 90 := h.2
    refine .inr ⟨hge, hle, ?_⟩
    change (c.val + ('a'.val - 'A'.val)).toNat = c.toNat + 32
    rw [UInt32.toNat_add]
    exact Nat.mod_eq_of_lt (Nat.lt_of_le_of_lt (Nat.add_le_add_right hle 32) (by decide))
  · exact .inl rfl

theorem ascii_of_asciiLower {c : Char} (h : (asciiLower c).toNat < 128) : c.toNat < 128 := by
  rcases asciiLower_cases c with heq | ⟨-, hle, -⟩
  · rwa [heq] at h
  · exact Nat.lt_of_le_of_lt hle (by decide)

theorem eq_of_asciiLower {c d : Char} (hd : d.toNat < 97) (h : asciiLower c = d) : c = d := by
  rcases asciiLower_cases c with heq | ⟨hge, -, hlow⟩
  · exact heq.symm.trans h
  · rw [h] at hlow
    omega

theorem sameUpToCase_symm {a b : String} (h : sameUpToCase a b = true) :
    sameUpToCase b a = true := by
  rw [sameUpToCase, beq_iff_eq] at *
  exact h.symm

theorem sameUpToCase_trans {a b c : String} (hab : sameUpToCase a b = true)
    (hbc : sameUpToCase b c = true) : sameUpToCase a c = true := by
  rw [sameUpToCase, beq_iff_eq] at *
  exact hab.trans hbc

namespace Casing

theorem runs_beyond_ascii : ∀ r ∈ runs,
    (128 ≤ r.target ∧ (r.last - r.first + r.target < 0xD800 ∨
      (0xDFFF < r.target ∧ r.last - r.first + r.target < 0x110000))) ∨
    (r.first = r.last ∧ r.target = 'k'.toNat) := by
  decide +kernel

theorem lowerChar_of_ascii {c : Char} (h : c.toNat < 128) : lowerChar c = asciiLower c :=
  if_pos h

theorem lowerChar_of_not_ascii {c : Char} (h : 128 ≤ c.toNat) :
    128 ≤ (lowerChar c).toNat ∨ lowerChar c = 'k' := by
  unfold lowerChar
  rw [if_neg (Nat.not_lt.mpr h)]
  cases hfound : runs.findSome? (·.lower? c.toNat) with
  | none => exact .inl h
  | some n =>
    obtain ⟨r, hr, hlower⟩ := List.exists_of_findSome?_eq_some hfound
    unfold Run.lower? at hlower
    split at hlower
    · rename_i hin
      obtain rfl := Option.some.inj hlower
      rcases runs_beyond_ascii r hr with ⟨hge, hvalid⟩ | ⟨hsingle, hk⟩
      · have hchar : (c.toNat - r.first + r.target).isValidChar := by
          unfold Nat.isValidChar
          omega
        left
        change 128 ≤ (Char.ofNat (c.toNat - r.first + r.target)).toNat
        rw [Char.ofNat, dif_pos hchar]
        exact Nat.le_trans hge (Nat.le_add_left _ _)
      · right
        change Char.ofNat (c.toNat - r.first + r.target) = 'k'
        rw [hk, show c.toNat - r.first = 0 by omega]
        rfl
    · cases hlower

/-- A character that occurs in lower-case forms only as the form of an ASCII character, or as the
letter i in front of a dot above. -/
def Steady (x : Char) : Prop := x.toNat < 128 ∧ x ≠ 'k'

theorem steady_colon : Steady ':' := ⟨by decide, by decide⟩

theorem not_steady_sigma (final : Bool) : ¬ Steady (if final then '\u03C2' else '\u03C3') := by
  intro h
  cases final
  · exact absurd h.1 (by decide)
  · exact absurd h.1 (by decide)

theorem lowerAt_of_ascii {c : Char} (h : c.toNat < 128) (before after : List Char) :
    lowerAt before after c = [asciiLower c] := by
  have hsigma : c ≠ '\u03A3' := by rintro rfl; exact absurd h (by decide)
  have hdotted : c ≠ '\u0130' := by rintro rfl; exact absurd h (by decide)
  rw [lowerAt, if_neg hsigma, if_neg hdotted, lowerChar_of_ascii h]

theorem lowerAt_of_not_ascii {c : Char} (h : ¬ c.toNat < 128) (before after : List Char) :
    lowerAt before after c = ['i', '\u0307'] ∨ ∃ x, lowerAt before after c = [x] ∧ ¬ Steady x := by
  unfold lowerAt
  split
  · exact .inr ⟨_, rfl, not_steady_sigma _⟩
  · split
    · exact .inl rfl
    · refine .inr ⟨_, rfl, fun hsteady => ?_⟩
      rcases lowerChar_of_not_ascii (Nat.not_lt.mp h) with hge | hk
      · exact Nat.not_lt.mpr hge hsteady.1
      · exact hsteady.2 hk

theorem lowerAt_ne_nil (before after : List Char) (c : Char) : lowerAt before after c ≠ [] := by
  unfold lowerAt
  split
  · exact List.cons_ne_nil _ _
  · split <;> exact List.cons_ne_nil _ _

theorem not_prefix_dot {n : List Char} (hn : ∀ x ∈ n, Steady x) (hne : n ≠ []) (rest : List Char) :
    ¬ n <+: '\u0307' :: rest := by
  intro h
  cases n with
  | nil => exact hne rfl
  | cons x xs =>
    have hsteady := hn x List.mem_cons_self
    rw [(List.cons_prefix_cons.mp h).1] at hsteady
    exact absurd hsteady.1 (by decide)

theorem cons_prefix_lowerFrom {y : Char} {ys : List Char} (hy : Steady y)
    (hys : ∀ z ∈ ys, Steady z) (hne : y = 'i' → ys ≠ []) (before cs : List Char) (c : Char) :
    y :: ys <+: lowerFrom before (c :: cs) ↔
      asciiLower c = y ∧ ys <+: lowerFrom (c :: before) cs := by
  rw [lowerFrom]
  by_cases hc : c.toNat < 128
  · rw [lowerAt_of_ascii hc, List.singleton_append, List.cons_prefix_cons, eq_comm]
  · refine iff_of_false (fun h => ?_) (fun h => hc (ascii_of_asciiLower (h.1 ▸ hy.1)))
    rcases lowerAt_of_not_ascii hc before cs with heq | ⟨x, heq, hx⟩
    · rw [heq] at h
      obtain ⟨rfl, htail⟩ := List.cons_prefix_cons.mp h
      exact not_prefix_dot hys (hne rfl) _ htail
    · rw [heq] at h
      exact hx ((List.cons_prefix_cons.mp h).1 ▸ hy)

variable {w : List Char} (hw : ∀ x ∈ w, Steady x)

include hw

theorem steady_before_colon : ∀ x ∈ w ++ [':'], Steady x := by
  intro x hx
  rcases List.mem_append.mp hx with hmem | hmem
  · exact hw x hmem
  · exact List.mem_singleton.mp hmem ▸ steady_colon

theorem prefix_lowerFrom_iff (before cs : List Char) :
    w ++ [':'] <+: lowerFrom before cs ↔ ∃ u b, cs = u ++ ':' :: b ∧ u.map asciiLower = w := by
  induction w generalizing before cs with
  | nil =>
    cases cs with
    | nil => simp [lowerFrom]
    | cons c cs =>
      rw [List.nil_append, cons_prefix_lowerFrom steady_colon (by simp) (by decide)]
      constructor
      · rintro ⟨hc, -⟩
        obtain rfl := eq_of_asciiLower (by decide) hc
        exact ⟨[], cs, rfl, rfl⟩
      · rintro ⟨u, b, heq, hu⟩
        obtain rfl := List.map_eq_nil_iff.mp hu
        obtain ⟨rfl, -⟩ := List.cons.inj heq
        exact ⟨by decide, List.nil_prefix⟩
  | cons x w ih =>
    obtain ⟨hx, hrest⟩ := List.forall_mem_cons.mp hw
    cases cs with
    | nil => simp [lowerFrom]
    | cons c cs =>
      rw [List.cons_append, cons_prefix_lowerFrom hx (steady_before_colon hrest) (by simp),
        ih hrest]
      constructor
      · rintro ⟨rfl, u, b, rfl, rfl⟩
        exact ⟨c :: u, b, rfl, rfl⟩
      · rintro ⟨u, b, heq, hu⟩
        obtain ⟨d, u, rfl, hd, rfl⟩ := List.map_eq_cons_iff.mp hu
        obtain ⟨rfl, rfl⟩ := List.cons.inj heq
        exact ⟨hd, u, b, rfl, rfl⟩

theorem infix_lowerFrom_cons (before cs : List Char) (c : Char) :
    w ++ [':'] <:+: lowerFrom before (c :: cs) ↔
      w ++ [':'] <+: lowerFrom before (c :: cs) ∨ w ++ [':'] <:+: lowerFrom (c :: before) cs := by
  have hdot (rest : List Char) : ¬ w ++ [':'] <+: '\u0307' :: rest :=
    not_prefix_dot (steady_before_colon hw) (by simp) rest
  rw [lowerFrom]
  by_cases hc : c.toNat < 128
  · rw [lowerAt_of_ascii hc, List.singleton_append, List.infix_cons_iff]
  · rcases lowerAt_of_not_ascii hc before cs with heq | ⟨x, heq, -⟩
    · rw [heq, List.cons_append, List.singleton_append, List.infix_cons_iff, List.infix_cons_iff,
        or_iff_right (hdot _)]
    · rw [heq, List.singleton_append, List.infix_cons_iff]

theorem infix_lowerFrom_iff (before cs : List Char) :
    w ++ [':'] <:+: lowerFrom before cs ↔
      ∃ a u b, cs = a ++ u ++ ':' :: b ∧ u.map asciiLower = w := by
  induction cs generalizing before with
  | nil => simp [lowerFrom]
  | cons c cs ih =>
    rw [infix_lowerFrom_cons hw, prefix_lowerFrom_iff hw, ih]
    constructor
    · rintro (⟨u, b, heq, hu⟩ | ⟨a, u, b, heq, hu⟩)
      · exact ⟨[], u, b, heq, hu⟩
      · exact ⟨c :: a, u, b, congrArg (c :: ·) heq, hu⟩
    · rintro ⟨a, u, b, heq, hu⟩
      cases a with
      | nil => exact .inl ⟨u, b, heq, hu⟩
      | cons d a => exact .inr ⟨a, u, b, (List.cons.inj heq).2, hu⟩

end Casing

theorem isEmpty_lower (s : String) : (lower s).isEmpty = s.isEmpty := by
  rw [Bool.eq_iff_iff, String.isEmpty_iff, String.isEmpty_iff, lower, lowerChars,
    String.ofList_eq_empty_iff, ← String.toList_eq_nil_iff]
  cases s.toList with
  | nil => simp [Casing.lowerFrom]
  | cons c cs => simp [Casing.lowerFrom, Casing.lowerAt_ne_nil]

theorem occursIn_lowerChars_iff {w : List Char} (hw : ∀ x ∈ w, Casing.Steady x) (cs : List Char) :
    occursIn (w ++ [':']) (lowerChars cs) = true ↔
      ∃ a u b, cs = a ++ u ++ ':' :: b ∧ u.map asciiLower = w :=
  occursIn_iff.trans (Casing.infix_lowerFrom_iff hw [] cs)

end PlanningSearch.Text
