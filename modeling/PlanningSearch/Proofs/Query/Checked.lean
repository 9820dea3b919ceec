import Mathlib.Data.List.Forall2
import PlanningSearch.Proofs.Query.Fields

/-!
The check before compilation. A field may spell, in letters of either case, a token of the given
domain, or of any domain when none is given. The first criterion that is not blank and spells none
of them ends the check, which then names its field. Otherwise the query is that of the criteria
that are not blank, each with the token that its field spells; no two tokens are spelled alike, so
neither the case of a field nor the domain that lets it through changes the query.
-/

namespace PlanningSearch.Query

open Text

def Refused (domain : Option Domain) (c : Criterion) : Prop :=
  c.blank = false ∧ ∀ token ∈ permitted domain, sameUpToCase token c.field = false

instance (domain : Option Domain) (c : Criterion) : Decidable (Refused domain c) :=
  inferInstanceAs (Decidable (_ ∧ _))

structure Recased (c c' : Criterion) : Prop where
  field : sameUpToCase c'.field c.field = true
  value : c'.value = c.value
  operator : c'.operator = c.operator

variable {domain : Option Domain} {field token : String}
variable {c : Criterion} {cs canon : List Criterion}

theorem exists_spelling (hb : c.blank = false) (h : ¬ Refused domain c) :
    ∃ t ∈ permitted domain, sameUpToCase t c.field = true := by
  by_contra hnone
  refine h ⟨hb, fun t ht => ?_⟩
  rw [← Bool.not_eq_true]
  exact fun hsame => hnone ⟨t, ht, hsame⟩

theorem not_refused_of_spells (ht : token ∈ permitted domain)
    (hsame : sameUpToCase token c.field = true) : ¬ Refused domain c := by
  intro h
  rw [h.2 token ht] at hsame
  cases hsame

theorem canonical_of_blank (hb : c.blank = true) :
    canonical domain (c :: cs) = canonical domain cs :=
  if_pos hb

theorem canonical_of_refused (h : Refused domain c) :
    canonical domain (c :: cs) = .error (refusal domain c.field) := by
  have hb : ¬ c.blank = true := Bool.not_eq_true _ ▸ h.1
  rw [canonical, if_neg hb, canonicalField_eq_error h.2]

theorem canonical_of_spells (hb : c.blank = false) (ht : token ∈ permitted domain)
    (hsame : sameUpToCase token c.field = true) :
    canonical domain (c :: cs) = (canonical domain cs).map ({ c with field := token } :: ·) := by
  have hb : ¬ c.blank = true := Bool.not_eq_true _ ▸ hb
  rw [canonical, if_neg hb, canonicalField_eq_ok_iff.mpr ⟨ht, hsame⟩]
  cases canonical domain cs <;> rfl

theorem canonical_cons_eq_error_iff {e : SearchError} (h : ¬ Refused domain c) :
    canonical domain (c :: cs) = .error e ↔ canonical domain cs = .error e := by
  cases hb : c.blank with
  | true => rw [canonical_of_blank hb]
  | false =>
    obtain ⟨t, ht, hsame⟩ := exists_spelling hb h
    rw [canonical_of_spells hb ht hsame]
    cases canonical domain cs <;> simp [Except.map]

theorem canonical_eq_error_iff {e : SearchError} :
    canonical domain cs = .error e ↔ ∃ before c after, cs = before ++ c :: after ∧
      (∀ b ∈ before, ¬ Refused domain b) ∧ Refused domain c ∧ e = refusal domain c.field := by
  induction cs with
  | nil => simp [canonical]
  | cons x cs ih =>
    -- a head that is refused is the first such criterion; otherwise it joins those before it
    by_cases hx : Refused domain x
    · rw [canonical_of_refused hx]
      constructor
      · intro h
        cases h
        exact ⟨[], x, cs, rfl, by simp, hx, rfl⟩
      · rintro ⟨before, c, after, heq, hbefore, -, rfl⟩
        cases before with
        | nil => rw [(List.cons.inj heq).1]
        | cons b before =>
          rw [← (List.cons.inj heq).1] at hbefore
          exact absurd hx (hbefore x List.mem_cons_self)
    · rw [canonical_cons_eq_error_iff hx, ih]
      constructor
      · rintro ⟨before, c, after, rfl, hbefore, hc, rfl⟩
        exact ⟨x :: before, c, after, rfl, List.forall_mem_cons.mpr ⟨hx, hbefore⟩, hc, rfl⟩
      · rintro ⟨before, c, after, heq, hbefore, hc, rfl⟩
        cases before with
        | nil => exact absurd ((List.cons.inj heq).1 ▸ hc) hx
        | cons b before =>
          obtain ⟨-, hrest⟩ := List.forall_mem_cons.mp hbefore
          exact ⟨before, c, after, (List.cons.inj heq).2, hrest, hc, rfl⟩

theorem Recased.eq_with {c' : Criterion} (h : Recased c c') :
    c' = { c with field := c'.field } := by
  obtain ⟨-, hvalue, hoperator⟩ := h
  rw [← hvalue, ← hoperator]

theorem canonical_cons_eq_ok_iff (hb : c.blank = false) :
    canonical domain (c :: cs) = .ok canon ↔ ∃ c' rest,
      (Recased c c' ∧ c'.field ∈ permitted domain) ∧
      canonical domain cs = .ok rest ∧ canon = c' :: rest := by
  constructor
  · intro h
    by_cases hc : Refused domain c
    · rw [canonical_of_refused hc] at h
      cases h
    · obtain ⟨t, ht, hsame⟩ := exists_spelling hb hc
      rw [canonical_of_spells hb ht hsame] at h
      cases hrest : canonical domain cs with
      | error e =>
        rw [hrest] at h
        cases h
      | ok rest =>
        rw [hrest] at h
        cases h
        exact ⟨{ c with field := t }, rest, ⟨⟨hsame, rfl, rfl⟩, ht⟩, rfl, rfl⟩
  · rintro ⟨c', rest, ⟨hc, ht⟩, hrest, rfl⟩
    rw [canonical_of_spells hb ht hc.field, hrest, ← hc.eq_with]
    rfl

theorem canonical_eq_ok_iff :
    canonical domain cs = .ok canon ↔
      List.Forall₂ Recased (cs.filter fun c => !c.blank) canon ∧
        ∀ c ∈ canon, c.field ∈ permitted domain := by
  induction cs generalizing canon with
  | nil =>
    rw [canonical, List.filter_nil, List.forall₂_nil_left_iff]
    constructor
    · rintro ⟨⟩
      exact ⟨rfl, by simp⟩
    · rintro ⟨rfl, -⟩
      rfl
  | cons c cs ih =>
    cases hb : c.blank with
    | true => rw [canonical_of_blank hb, ih, List.filter_cons_of_neg (by simp [hb])]
    | false =>
      rw [canonical_cons_eq_ok_iff hb, List.filter_cons_of_pos (by simp [hb]),
        List.forall₂_cons_left_iff]
      constructor
      · rintro ⟨c', rest, ⟨hc, ht⟩, hrest, rfl⟩
        obtain ⟨hrecased, hfields⟩ := ih.mp hrest
        exact ⟨⟨c', rest, hc, hrecased, rfl⟩, List.forall_mem_cons.mpr ⟨ht, hfields⟩⟩
      · rintro ⟨⟨c', rest, hc, hrecased, rfl⟩, hfields⟩
        obtain ⟨ht, hfields⟩ := List.forall_mem_cons.mp hfields
        exact ⟨c', rest, ⟨hc, ht⟩, ih.mpr ⟨hrecased, hfields⟩, rfl⟩

theorem exists_canonical_of_none_refused (h : ∀ c ∈ cs, ¬ Refused domain c) :
    ∃ canon, canonical domain cs = .ok canon := by
  cases hcanon : canonical domain cs with
  | ok canon => exact ⟨canon, rfl⟩
  | error e =>
    obtain ⟨before, c, after, rfl, -, hc, -⟩ := canonical_eq_error_iff.mp hcanon
    exact absurd hc (h c (by simp))

theorem not_refused_of_canonical (h : canonical domain cs = .ok canon) :
    ∀ c ∈ cs, ¬ Refused domain c := by
  induction cs generalizing canon with
  | nil => simp
  | cons c cs ih =>
    cases hb : c.blank with
    | true =>
      rw [canonical_of_blank hb] at h
      refine List.forall_mem_cons.mpr ⟨fun hc => ?_, ih h⟩
      exact Bool.false_ne_true (hc.1.symm.trans hb)
    | false =>
      obtain ⟨c', rest, ⟨hc, ht⟩, hrest, -⟩ := (canonical_cons_eq_ok_iff hb).mp h
      exact List.forall_mem_cons.mpr ⟨not_refused_of_spells ht hc.field, ih hrest⟩

theorem canonical_congr {other : Option Domain} (h : ∀ c ∈ cs, c.blank = false →
    canonicalField other c.field = canonicalField domain c.field) :
    canonical other cs = canonical domain cs := by
  induction cs with
  | nil => rfl
  | cons c cs ih =>
    obtain ⟨hc, hcs⟩ := List.forall_mem_cons.mp h
    unfold canonical
    cases hb : c.blank with
    | true => exact ih hcs
    | false => rw [hc hb, ih hcs]

theorem Recased.blank_eq {c' : Criterion} (h : Recased c c') : c'.blank = c.blank := by
  rw [Criterion.blank, h.value]
  rfl

theorem Recased.spells_iff {c' : Criterion} (h : Recased c c') :
    sameUpToCase token c'.field = true ↔ sameUpToCase token c.field = true :=
  ⟨fun hsame => sameUpToCase_trans hsame h.field,
    fun hsame => sameUpToCase_trans hsame (sameUpToCase_symm h.field)⟩

theorem toOption_map {ε α β : Type} (f : α → β) (x : Except ε α) :
    (x.map f).toOption = x.toOption.map f := by
  cases x <;> rfl

theorem canonical_recased {cs' : List Criterion} (h : List.Forall₂ Recased cs cs') :
    (canonical domain cs').toOption = (canonical domain cs).toOption := by
  induction h with
  | nil => rfl
  | @cons c c' cs cs' hc _ ih =>
    cases hb : c.blank with
    | true => rwa [canonical_of_blank hb, canonical_of_blank (hc.blank_eq.trans hb)]
    | false =>
      have hb' : c'.blank = false := hc.blank_eq.trans hb
      by_cases hrefused : Refused domain c
      · have hrefused' : Refused domain c' := by
          refine ⟨hb', fun t ht => ?_⟩
          rw [← Bool.not_eq_true, hc.spells_iff, Bool.not_eq_true]
          exact hrefused.2 t ht
        rw [canonical_of_refused hrefused, canonical_of_refused hrefused']
        rfl
      · obtain ⟨t, ht, hsame⟩ := exists_spelling hb hrefused
        have hwith : { c' with field := t } = { c with field := t } := by
          rw [hc.value, hc.operator]
        rw [canonical_of_spells hb ht hsame, canonical_of_spells hb' ht (hc.spells_iff.mpr hsame),
          hwith, toOption_map, toOption_map, ih]

theorem compileChecked_eq_ok_iff {q : Option String} :
    compileChecked domain cs = .ok q ↔
      ∃ canon, canonical domain cs = .ok canon ∧ compile canon = q := by
  rw [compileChecked]
  cases canonical domain cs <;> simp [Except.map]

theorem compileChecked_eq_error_iff {e : SearchError} :
    compileChecked domain cs = .error e ↔ canonical domain cs = .error e := by
  rw [compileChecked]
  cases canonical domain cs <;> simp [Except.map]

theorem exists_error_iff :
    (∃ e, compileChecked domain cs = .error e) ↔ ∃ c ∈ cs, Refused domain c := by
  simp only [compileChecked_eq_error_iff]
  constructor
  · rintro ⟨e, he⟩
    obtain ⟨before, c, after, rfl, -, hc, -⟩ := canonical_eq_error_iff.mp he
    exact ⟨c, by simp, hc⟩
  · rintro ⟨c, hc, hrefused⟩
    cases hcanon : canonical domain cs with
    | ok canon => exact absurd hrefused (not_refused_of_canonical hcanon c hc)
    | error e => exact ⟨e, rfl⟩

theorem compileChecked_eq_none_iff :
    compileChecked domain cs = .ok none ↔ ∀ c ∈ cs, c.blank = true := by
  refine ⟨fun h => ?_, compileChecked_blank domain⟩
  obtain ⟨canon, hcanon, hnone⟩ := compileChecked_eq_ok_iff.mp h
  obtain ⟨hrecased, -⟩ := canonical_eq_ok_iff.mp hcanon
  cases hkept : cs.filter fun c => !c.blank with
  | nil => simpa using hkept
  | cons c kept =>
    rw [hkept, List.forall₂_cons_left_iff] at hrecased
    obtain ⟨c', rest, hc, -, rfl⟩ := hrecased
    have hb : c.blank = false := by
      have hmem : c ∈ cs.filter fun c => !c.blank := hkept ▸ List.mem_cons_self
      simpa using (List.mem_filter.mp hmem).2
    obtain ⟨query, hquery⟩ := exists_compile List.mem_cons_self (hc.blank_eq.trans hb)
    rw [hnone] at hquery
    cases hquery

theorem compileChecked_recased {cs' : List Criterion} (h : List.Forall₂ Recased cs cs') :
    (compileChecked domain cs').toOption = (compileChecked domain cs).toOption := by
  rw [compileChecked, compileChecked, toOption_map, toOption_map, canonical_recased h]

theorem compileChecked_of_domain {d : Domain} (h : ∀ c ∈ cs, c.blank = false →
    ∃ token ∈ d.tokens, sameUpToCase token c.field = true) :
    compileChecked none cs = compileChecked (some d) cs := by
  suffices hcanon : canonical none cs = canonical (some d) cs by
    rw [compileChecked, hcanon]
    rfl
  refine canonical_congr fun c hc hb => ?_
  obtain ⟨t, ht, hsame⟩ := h c hc hb
  have hdomain : canonicalField (some d) c.field = .ok t :=
    canonicalField_eq_ok_iff.mpr ⟨ht, hsame⟩
  rw [canonicalField_eq_ok_iff.mpr ⟨mem_registered ht, hsame⟩, hdomain]

theorem compileChecked_none_of_some {d : Domain} {q : Option String}
    (h : compileChecked (some d) cs = .ok q) : compileChecked none cs = .ok q := by
  obtain ⟨canon, hcanon, -⟩ := compileChecked_eq_ok_iff.mp h
  rw [compileChecked_of_domain (d := d), h]
  exact fun c hc hb => exists_spelling hb (not_refused_of_canonical hcanon c hc)

/-- The check of criteria fails exactly when some criterion that is not blank spells no permitted
token, and names the first such field. Otherwise it answers the query of the criteria that are not
blank, spelled as permitted tokens, which is none exactly when all criteria are blank. The case of
the fields decides nothing. What a domain lets through any domain lets through with the same query,
and the other way round when all fields are those of the domain. -/
theorem compileChecked_refuses_or_spells (cs : List Criterion) :
    (∀ domain,
      ((∃ e, compileChecked domain cs = .error e) ↔ ∃ c ∈ cs, Refused domain c) ∧
      (∀ before c after, cs = before ++ c :: after → (∀ b ∈ before, ¬ Refused domain b) →
        Refused domain c → compileChecked domain cs = .error (refusal domain c.field)) ∧
      ((∀ c ∈ cs, ¬ Refused domain c) → ∃ canon,
        List.Forall₂ Recased (cs.filter fun c => !c.blank) canon ∧
        (∀ c ∈ canon, c.field ∈ permitted domain) ∧
        compileChecked domain cs = .ok (compile canon)) ∧
      (compileChecked domain cs = .ok none ↔ ∀ c ∈ cs, c.blank = true) ∧
      ∀ cs', List.Forall₂ Recased cs cs' →
        (compileChecked domain cs').toOption = (compileChecked domain cs).toOption) ∧
    ∀ d q,
      (compileChecked (some d) cs = .ok q → compileChecked none cs = .ok q) ∧
      ((∀ c ∈ cs, c.blank = false → ∃ token ∈ d.tokens, sameUpToCase token c.field = true) →
        compileChecked none cs = .ok q → compileChecked (some d) cs = .ok q) := by
  refine ⟨fun domain => ⟨exists_error_iff, ?_, fun hnone => ?_, compileChecked_eq_none_iff,
    fun cs' => compileChecked_recased⟩, fun d q => ⟨compileChecked_none_of_some, fun h hq => ?_⟩⟩
  · intro before c after heq hbefore hc
    exact compileChecked_eq_error_iff.mpr
      (canonical_eq_error_iff.mpr ⟨before, c, after, heq, hbefore, hc, rfl⟩)
  · obtain ⟨canon, hcanon⟩ := exists_canonical_of_none_refused hnone
    obtain ⟨hrecased, hfields⟩ := canonical_eq_ok_iff.mp hcanon
    exact ⟨canon, hrecased, hfields, compileChecked_eq_ok_iff.mpr ⟨canon, hcanon, rfl⟩⟩
  · exact (compileChecked_of_domain h).symm.trans hq

theorem compileChecked_refuses_or_spells_of_two_domains :
    let blank : Criterion := ⟨"colour", " ", some .or⟩
    let isNew : Criterion := ⟨"ISNEW", "Yes", none⟩
    let geography : Criterion := ⟨"Geography", "EU", some .or⟩
    let cs := [blank, isNew, geography]
    let small := [blank, { isNew with field := "isnew" }, { geography with field := "geography" }]
    compileChecked (some .product) cs = .error (.unknownField .product "Geography") ∧
    compileChecked none cs = .ok (some "isnew:*Yes* OR geography:*EU*") ∧
    (compileChecked none small).toOption = some (some "isnew:*Yes* OR geography:*EU*") ∧
    (∃ canon, List.Forall₂ Recased [isNew, geography] canon ∧
      compileChecked none cs = .ok (compile canon)) ∧
    compileChecked (some .product) [blank, isNew] = .ok (some "isnew:*Yes*") := by
  intro blank isNew geography cs small
  obtain ⟨hany, -⟩ := compileChecked_refuses_or_spells cs
  obtain ⟨-, hfirst, -⟩ := hany (some .product)
  obtain ⟨-, -, hspelled, -, hrecased⟩ := hany none
  have hquery : compileChecked none cs = .ok (some "isnew:*Yes* OR geography:*EU*") := by decide
  have hkept : (cs.filter fun c => !c.blank) = [isNew, geography] := by decide
  obtain ⟨canon, hcanon, -, hcompile⟩ := hspelled (by decide)
  have hsmall : List.Forall₂ Recased cs small :=
    .cons ⟨by decide, rfl, rfl⟩ (.cons ⟨by decide, rfl, rfl⟩ (.cons ⟨by decide, rfl, rfl⟩ .nil))
  refine ⟨hfirst [blank, isNew] geography [] rfl (by decide) (by decide), hquery, ?_,
    ⟨canon, hkept ▸ hcanon, hcompile⟩, ?_⟩
  · rw [hrecased small hsmall, hquery]
    rfl
  · exact ((compileChecked_refuses_or_spells [blank, isNew]).2 .product _).2 (by decide) (by decide)

end PlanningSearch.Query
