import PlanningSearch.Proofs.Text.Casing

/-!
Lower-casing a part of a text. The lower-case form of a character depends on what stands around it
only for the capital sigma. A part whose sigmas are settled by the part itself has the same form
wherever it stands, so it is found again in the lower-cased text; any other part is lost in some
text, where a letter in front of it or behind it turns one of its sigmas.
-/

namespace PlanningSearch.Text

namespace Casing

def passable (cs : List Char) : Bool := cs.all fun c => inRanges ignorable c.toNat

theorem meetsCased_append (cs ds : List Char) :
    meetsCased (cs ++ ds) = if passable cs then meetsCased ds else meetsCased cs := by
  induction cs with
  | nil => rfl
  | cons c cs ih =>
    cases h : inRanges ignorable c.toNat with
    | true => simpa [meetsCased, passable, h] using ih
    | false => simp [meetsCased, passable, h]

theorem meetsCased_of_passable {cs : List Char} (h : passable cs = true) :
    meetsCased cs = false := by
  have hnil := meetsCased_append cs []
  rw [List.append_nil, if_pos h] at hnil
  exact hnil

/-- Whether the form of a sigma is settled by the text before it, nearest first, and after it, so
that no more text around these changes it. -/
def settledAt (before after : List Char) : Bool :=
  meetsCased after || (!passable before && (!meetsCased before || !passable after))

theorem endsWord_append {before after : List Char} (h : settledAt before after = true)
    (before' after' : List Char) :
    endsWord (before ++ before') (after ++ after') = endsWord before after := by
  simp only [endsWord, meetsCased_append]
  cases hb : passable before <;> cases ha : passable after <;>
    simp_all [settledAt, meetsCased_of_passable]

theorem endsWord_of_not_settledAt {before after : List Char} (h : settledAt before after = false) :
    (passable after = true ∧ endsWord before after = true ∧
      endsWord before (after ++ ['a']) = false) ∨
    (passable before = true ∧ endsWord before after = false ∧
      endsWord (before ++ ['a']) after = true) := by
  have hletter : meetsCased ['a'] = true := by decide +kernel
  simp only [settledAt, Bool.or_eq_false_iff, Bool.and_eq_false_iff, Bool.not_eq_false'] at h
  obtain ⟨hafter, hbefore | ⟨hbefore, hpass⟩⟩ := h
  · right
    simp [endsWord, meetsCased_append, hbefore, hafter, hletter, meetsCased_of_passable]
  · left
    simp [endsWord, meetsCased_append, hbefore, hafter, hletter, hpass]

def settledFrom (before : List Char) : List Char → Bool
  | [] => true
  | c :: cs => (c != '\u03A3' || settledAt before cs) && settledFrom (c :: before) cs

theorem exists_of_not_settledFrom {before cs : List Char} (h : settledFrom before cs = false) :
    ∃ u w, cs = u ++ '\u03A3' :: w ∧ settledAt (u.reverse ++ before) w = false := by
  induction cs generalizing before with
  | nil => cases h
  | cons c cs ih =>
    rw [settledFrom, Bool.and_eq_false_iff, Bool.or_eq_false_iff] at h
    rcases h with ⟨hc, hat⟩ | hrest
    · obtain rfl : c = '\u03A3' := by simpa using hc
      exact ⟨[], cs, rfl, hat⟩
    · obtain ⟨u, w, rfl, hat⟩ := ih hrest
      exact ⟨c :: u, w, rfl, by simpa using hat⟩

def lowerWithin (before after : List Char) : List Char → List Char
  | [] => []
  | c :: cs => lowerAt before (cs ++ after) c ++ lowerWithin (c :: before) after cs

theorem lowerFrom_append (before cs ds : List Char) :
    lowerFrom before (cs ++ ds) =
      lowerWithin before ds cs ++ lowerFrom (cs.reverse ++ before) ds := by
  induction cs generalizing before with
  | nil => rfl
  | cons c cs ih => simp [lowerFrom, lowerWithin, ih]

theorem lowerFrom_eq_lowerWithin (before cs : List Char) :
    lowerFrom before cs = lowerWithin before [] cs := by
  simpa [lowerFrom] using lowerFrom_append before cs []

theorem lowerWithin_append (before after cs ds : List Char) :
    lowerWithin before after (cs ++ ds) =
      lowerWithin before (ds ++ after) cs ++ lowerWithin (cs.reverse ++ before) after ds := by
  induction cs generalizing before with
  | nil => rfl
  | cons c cs ih => simp [lowerWithin, ih]

theorem lowerAt_of_ne {c : Char} (h : c ≠ '\u03A3') (before after before' after' : List Char) :
    lowerAt before after c = lowerAt before' after' c := by
  rw [lowerAt, lowerAt, if_neg h, if_neg h]

theorem lowerAt_sigma (before after : List Char) :
    lowerAt before after '\u03A3' = [if endsWord before after then '\u03C2' else '\u03C3'] :=
  if_pos rfl

theorem length_lowerWithin (before after before' after' cs : List Char) :
    (lowerWithin before after cs).length = (lowerWithin before' after' cs).length := by
  induction cs generalizing before before' with
  | nil => rfl
  | cons c cs ih =>
    have hat : (lowerAt before (cs ++ after) c).length =
        (lowerAt before' (cs ++ after') c).length := by
      by_cases hc : c = '\u03A3'
      · rw [hc, lowerAt_sigma, lowerAt_sigma]; rfl
      · rw [lowerAt_of_ne hc]
    rw [lowerWithin, lowerWithin, List.length_append, List.length_append, hat, ih]

theorem lowerWithin_of_settledFrom {before cs : List Char} (h : settledFrom before cs = true)
    (before' after : List Char) :
    lowerWithin (before ++ before') after cs = lowerFrom before cs := by
  induction cs generalizing before with
  | nil => rfl
  | cons c cs ih =>
    rw [settledFrom, Bool.and_eq_true, Bool.or_eq_true, bne_iff_ne] at h
    have hat : lowerAt (before ++ before') (cs ++ after) c = lowerAt before cs c := by
      by_cases hc : c = '\u03A3'
      · rw [hc, lowerAt_sigma, lowerAt_sigma, endsWord_append (h.1.resolve_left fun hne => hne hc)]
      · exact lowerAt_of_ne hc _ _ _ _
    rw [lowerWithin, lowerFrom, hat, ← List.cons_append, ih h.2]

theorem lowerWithin_ne {u w before after before' after' : List Char}
    (h : endsWord (u.reverse ++ before) (w ++ after) ≠
      endsWord (u.reverse ++ before') (w ++ after')) :
    lowerWithin before after (u ++ '\u03A3' :: w) ≠
      lowerWithin before' after' (u ++ '\u03A3' :: w) := by
  intro heq
  rw [lowerWithin_append, lowerWithin_append] at heq
  have hsigma := (List.append_inj heq (length_lowerWithin _ _ _ _ u)).2
  rw [lowerWithin, lowerWithin, lowerAt_sigma, lowerAt_sigma] at hsigma
  have hform := (List.cons.inj hsigma).1
  cases he : endsWord (u.reverse ++ before) (w ++ after) <;>
    cases he' : endsWord (u.reverse ++ before') (w ++ after') <;> simp_all

theorem letter_notMem_lowerAt {c : Char} (h : inRanges ignorable c.toNat = true)
    (before after : List Char) : 'a' ∉ lowerAt before after c := by
  have hsmall : inRanges ignorable 97 = false := by decide +kernel
  have hcapital : inRanges ignorable 65 = false := by decide +kernel
  by_cases hc : c.toNat < 128
  · rw [lowerAt_of_ascii hc, List.mem_singleton]
    intro heq
    rcases asciiLower_cases c with hsame | ⟨-, -, hlow⟩
    · rw [← hsame, ← heq] at h
      exact Bool.false_ne_true (hsmall.symm.trans h)
    · rw [← heq] at hlow
      have hcode : c.toNat = 65 := (Nat.add_right_cancel (m := 32) hlow).symm
      rw [hcode, hcapital] at h
      cases h
  · rcases lowerAt_of_not_ascii hc before after with heq | ⟨x, heq, hx⟩
    · rw [heq]
      decide
    · rw [heq, List.mem_singleton]
      rintro rfl
      exact hx ⟨by decide, by decide⟩

theorem letter_notMem_lowerWithin {cs : List Char}
    (h : ∀ c ∈ cs, c = '\u03A3' ∨ inRanges ignorable c.toNat = true) (before after : List Char) :
    'a' ∉ lowerWithin before after cs := by
  induction cs generalizing before with
  | nil => exact List.not_mem_nil
  | cons c cs ih =>
    obtain ⟨hc, hcs⟩ := List.forall_mem_cons.mp h
    rw [lowerWithin, List.mem_append, not_or]
    refine ⟨?_, ih hcs _⟩
    rcases hc with rfl | hc
    · rw [lowerAt_sigma]
      split <;> decide
    · exact letter_notMem_lowerAt hc _ _

theorem lowerFrom_letter (before cs : List Char) :
    lowerFrom before ('a' :: cs) = 'a' :: lowerFrom ('a' :: before) cs := by
  rw [lowerFrom, lowerAt_of_ascii (by decide)]
  rfl

variable {u w : List Char}

theorem lost_before_letter (hpass : passable w = true) (halone : endsWord u.reverse w = true)
    (hturned : endsWord u.reverse (w ++ ['a']) = false) :
    ¬ lowerFrom [] (u ++ '\u03A3' :: w) <:+: lowerFrom [] ((u ++ '\u03A3' :: w) ++ ['a']) := by
  have htext : lowerFrom [] ((u ++ '\u03A3' :: w) ++ ['a']) =
      lowerWithin [] ['a'] (u ++ '\u03A3' :: w) ++ ['a'] := by
    rw [lowerFrom_append, lowerFrom_letter, lowerFrom]
  have hother : lowerWithin [] [] (u ++ '\u03A3' :: w) ≠
      lowerWithin [] ['a'] (u ++ '\u03A3' :: w) :=
    lowerWithin_ne (by simp [halone, hturned])
  rw [htext, lowerFrom_eq_lowerWithin, List.infix_concat_iff]
  rintro (htail | hwithin)
  · -- the part would end in the letter, but nothing from its sigma on has the letter in its form
    have hend : 'a' ∉ lowerWithin (u.reverse ++ []) [] ('\u03A3' :: w) :=
      letter_notMem_lowerWithin (List.forall_mem_cons.mpr
        ⟨.inl rfl, fun c hc => .inr (List.all_eq_true.mp hpass c hc)⟩) _ _
    rw [lowerWithin_append] at htail
    have hclose := (List.suffix_append _ _).trans htail
    rcases List.suffix_concat_iff.mp hclose with hnil | ⟨t, heq, -⟩
    · simp [lowerWithin, lowerAt_sigma] at hnil
    · exact hend (heq ▸ List.mem_concat_self)
  · exact hother (hwithin.eq_of_length (length_lowerWithin _ _ _ _ _))

theorem lost_behind_letter (hpass : passable u.reverse = true)
    (halone : endsWord u.reverse w = false)
    (hturned : endsWord (u.reverse ++ ['a']) w = true) :
    ¬ lowerFrom [] (u ++ '\u03A3' :: w) <:+: lowerFrom [] ('a' :: (u ++ '\u03A3' :: w)) := by
  have htext : lowerFrom [] ('a' :: (u ++ '\u03A3' :: w)) =
      'a' :: lowerWithin ['a'] [] (u ++ '\u03A3' :: w) := by
    rw [lowerFrom_letter, lowerFrom_eq_lowerWithin]
  have hother : lowerWithin [] [] (u ++ '\u03A3' :: w) ≠
      lowerWithin ['a'] [] (u ++ '\u03A3' :: w) :=
    lowerWithin_ne (by simp [halone, hturned])
  rw [htext, lowerFrom_eq_lowerWithin, List.infix_cons_iff]
  rintro (hhead | hwithin)
  · -- the part would start with the letter, but nothing up to its sigma has the letter in its form
    have hstart : 'a' ∉ lowerWithin [] (w ++ []) (u ++ ['\u03A3']) :=
      letter_notMem_lowerWithin (List.forall_mem_append.mpr
        ⟨fun c hc => .inr (List.all_eq_true.mp hpass c (List.mem_reverse.mpr hc)), by simp⟩) _ _
    rw [List.append_cons, lowerWithin_append] at hhead
    have hopen := (List.prefix_append _ _).trans hhead
    rcases List.prefix_cons_iff.mp hopen with hnil | ⟨t, heq, -⟩
    · simp [lowerWithin_append, lowerWithin, lowerAt_sigma] at hnil
    · exact hstart (heq ▸ List.mem_cons_self)
  · exact hother (hwithin.eq_of_length (length_lowerWithin _ _ _ _ _))

end Casing

def sigmasSettled (cs : List Char) : Bool := Casing.settledFrom [] cs

theorem lowerChars_infix_of_settled {cs text : List Char} (h : sigmasSettled cs = true)
    (hin : cs <:+: text) : lowerChars cs <:+: lowerChars text := by
  obtain ⟨front, rest, rfl⟩ := hin
  have hform := Casing.lowerWithin_of_settledFrom h front.reverse rest
  rw [List.append_assoc, lowerChars, lowerChars, Casing.lowerFrom_append, Casing.lowerFrom_append]
  rw [List.append_nil, ← hform]
  exact List.infix_append' _ _ _

/-- A part is found again in every lower-cased text that has it exactly when its sigmas are
settled. -/
theorem lowerChars_infix_iff_settled {cs : List Char} :
    (∀ text, cs <:+: text → lowerChars cs <:+: lowerChars text) ↔ sigmasSettled cs = true := by
  refine ⟨fun hfound => ?_, fun h _ => lowerChars_infix_of_settled h⟩
  by_contra hnot
  obtain ⟨u, w, rfl, hat⟩ :=
    Casing.exists_of_not_settledFrom (Bool.eq_false_iff.mpr hnot)
  rw [List.append_nil] at hat
  rcases Casing.endsWord_of_not_settledAt hat with
    ⟨hpass, halone, hturned⟩ | ⟨hpass, halone, hturned⟩
  · exact Casing.lost_before_letter hpass halone hturned
      (hfound _ (List.prefix_append _ _).isInfix)
  · exact Casing.lost_behind_letter hpass halone hturned
      (hfound _ (List.suffix_cons _ _).isInfix)

end PlanningSearch.Text
