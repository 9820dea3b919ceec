import Mathlib.Data.List.Infix
import PlanningSearch.Proofs.Query.Checked
import PlanningSearch.Proofs.Query.UniqueReading

/-!
Validator and compiler agree. A colon of a query stands behind the token of a term or inside a
value. So a query that was compiled with checked fields applies to the domains of the fields that
were searched, and to no other domain unless a value has a colon of its own: before the colon of a
term stands its token and before the token a blank or nothing, and no token is the end of another.
-/

namespace PlanningSearch

open Text

instance (x : Char) : Decidable (Casing.Steady x) := inferInstanceAs (Decidable (_ ∧ _))

namespace Query

theorem steady_of_registered {token : String} (h : token ∈ registered) :
    ∀ x ∈ token.toList, Casing.Steady x := by
  have hall : ∀ token ∈ registered, token.toList.all fun x => decide (Casing.Steady x) := by decide
  exact fun x hx => of_decide_eq_true (List.all_eq_true.mp (hall token h) x hx)

theorem eq_of_suffix_registered : ∀ token ∈ registered, ∀ other ∈ registered,
    token.toList <:+ other.toList → token = other := by
  decide

end Query

theorem Domain.appliesTo_iff (d : Domain) (query : String) :
    d.appliesTo query = true ↔ ∃ token ∈ d.tokens, ∃ a u b,
      query.toList = a ++ u ++ ':' :: b ∧ u.map asciiLower = token.toList := by
  simp only [appliesTo, List.any_eq_true]
  refine exists_congr fun token => and_congr_right fun hmem => ?_
  have hsteady := Query.steady_of_registered (Query.mem_registered hmem)
  exact occursIn_lowerChars_iff hsteady query.toList

namespace Query

theorem colon_notMem_escape {v : List Char} (h : ':' ∉ v) : ':' ∉ escape v := by
  induction v with
  | nil => exact h
  | cons c cs ih =>
    obtain ⟨hc, hcs⟩ := not_or.mp (List.mem_cons.not.mp h)
    unfold escape
    split
    · simp [ih hcs]
    · simp [ih hcs, hc]

theorem colon_notMem_quote {v : List Char} (h : ':' ∉ v) : ':' ∉ quote v := by
  unfold quote
  split
  · simp [colon_notMem_escape h]
  · exact h

theorem colon_notMem_widen {v : List Char} (h : ':' ∉ v) : ':' ∉ widen v := by
  unfold widen
  split
  · exact h
  · simp [h]

/-- The first colon behind a term's start is the one behind its token. -/
theorem term_colon {t : Term} (ht : t.Sound) (hv : ':' ∉ t.value.toList) {r a b : List Char}
    (h : t.text ++ r = a ++ ':' :: b) :
    a = t.token.toList ∨ ∃ m, a = t.text ++ m ∧ r = m ++ ':' :: b := by
  rw [Term.text, List.append_assoc, List.cons_append] at h
  obtain ⟨m, rfl, hm⟩ := exists_of_append_eq ht.colon h
  cases m with
  | nil => exact .inl (List.append_nil _)
  | cons c m =>
    obtain ⟨rfl, htail⟩ := List.cons.inj hm
    obtain ⟨m, rfl, hr⟩ := exists_of_append_eq (colon_notMem_quote hv) htail
    exact .inr ⟨m, by simp [Term.text], hr⟩

theorem colon_notMem_operator (op : Operator) : ':' ∉ op.text.toList := by
  cases op <;> decide

theorem restText_colon {ps : List (Operator × Term)}
    (hs : ∀ p ∈ ps, p.2.Sound ∧ ':' ∉ p.2.value.toList) {a b : List Char}
    (h : restText ps = a ++ ':' :: b) :
    ∃ p ∈ ps, ∃ front, a = front ++ ' ' :: p.2.token.toList := by
  induction ps generalizing a with
  | nil => simp [restText] at h
  | cons p ps ih =>
    obtain ⟨⟨hsound, hvalue⟩, hps⟩ := List.forall_mem_cons.mp hs
    let front := ' ' :: p.1.text.toList
    have hfront : ':' ∉ front ++ [' '] := by simp [front, colon_notMem_operator]
    have htext : restText (p :: ps) = (front ++ [' ']) ++ (p.2.text ++ restText ps) := by
      simp [restText, front]
    obtain ⟨m, rfl, hm⟩ := exists_of_append_eq hfront (htext.symm.trans h)
    rcases term_colon hsound hvalue hm with rfl | ⟨m, rfl, hrest⟩
    · exact ⟨p, List.mem_cons_self, front, by simp⟩
    · obtain ⟨q, hq, before, rfl⟩ := ih hps hrest
      exact ⟨q, List.mem_cons_of_mem p hq, front ++ [' '] ++ p.2.text ++ before, by simp⟩

theorem suffix_token_of_colon {n : NormalForm}
    (hs : ∀ t ∈ n.terms, t.Sound ∧ ':' ∉ t.value.toList) {a u b : List Char} (hu : ' ' ∉ u)
    (h : n.text = a ++ u ++ ':' :: b) : ∃ t ∈ n.terms, u <:+ t.token.toList := by
  obtain ⟨⟨hsound, hvalue⟩, hrest⟩ := List.forall_mem_cons.mp hs
  have hps : ∀ p ∈ n.rest, p.2.Sound ∧ ':' ∉ p.2.value.toList :=
    fun p hp => hrest p.2 (List.mem_map_of_mem hp)
  rcases term_colon hsound hvalue h with heq | ⟨m, heq, hm⟩
  · exact ⟨n.first, List.mem_cons_self, a, heq⟩
  · obtain ⟨p, hp, front, rfl⟩ := restText_colon hps hm
    refine ⟨p.2, List.mem_cons_of_mem _ (List.mem_map_of_mem hp), ?_⟩
    rw [← List.append_assoc] at heq
    obtain ⟨m, -, hu'⟩ | ⟨m, -, hm⟩ := List.append_eq_append_iff.mp heq
    · exact absurd (hu' ▸ List.mem_append_cons_self) hu
    · cases m with
      | nil =>
        rw [List.nil_append] at hm
        exact absurd (hm ▸ List.mem_cons_self) hu
      | cons c m => exact ⟨m, (List.cons.inj hm).2.symm⟩

theorem text_infix_restText {ps : List (Operator × Term)} {p : Operator × Term} (hp : p ∈ ps) :
    p.2.text <:+: restText ps := by
  induction ps with
  | nil => exact absurd hp List.not_mem_nil
  | cons q ps ih =>
    rcases List.mem_cons.mp hp with rfl | hmem
    · exact ⟨' ' :: (p.1.text.toList ++ [' ']), restText ps, by simp [restText]⟩
    · refine (ih hmem).trans (List.IsSuffix.isInfix ?_)
      exact ⟨' ' :: (q.1.text.toList ++ ' ' :: q.2.text), by simp [restText]⟩

theorem text_infix_text {n : NormalForm} {t : Term} (ht : t ∈ n.terms) : t.text <:+: n.text := by
  rcases List.mem_cons.mp ht with rfl | hmem
  · exact (List.prefix_append _ _).isInfix
  · obtain ⟨p, hp, rfl⟩ := List.mem_map.mp hmem
    exact (text_infix_restText hp).trans (List.suffix_append _ _).isInfix

def spelled (domain : Option Domain) (c : Criterion) : Criterion :=
  match canonicalField domain c.field with
  | .ok token => { c with field := token }
  | .error _ => c

theorem spelled_value (domain : Option Domain) (c : Criterion) :
    (spelled domain c).value = c.value := by
  unfold spelled
  cases canonicalField domain c.field <;> rfl

theorem canonicalField_spec {domain : Option Domain} {field token : String}
    (h : canonicalField domain field = .ok token) :
    token ∈ registered ∧ sameUpToCase token field = true := by
  exact (canonicalField_eq_ok_iff.mp h).imp_left registered_of_permitted

theorem eq_spelled {domain : Option Domain} {c c' : Criterion} (hc : Recased c c')
    (ht : c'.field ∈ permitted domain) : c' = spelled domain c := by
  rw [spelled, canonicalField_eq_ok_iff.mpr ⟨ht, hc.field⟩]
  exact hc.eq_with

theorem eq_map_spelled {domain : Option Domain} {kept canon : List Criterion}
    (h : List.Forall₂ Recased kept canon) (hfields : ∀ c ∈ canon, c.field ∈ permitted domain) :
    canon = kept.map (spelled domain) := by
  induction h with
  | nil => rfl
  | cons hc _ ih =>
    obtain ⟨ht, hrest⟩ := List.forall_mem_cons.mp hfields
    rw [List.map_cons, ← eq_spelled hc ht, ← ih hrest]

theorem canonical_eq_ok {domain : Option Domain} {cs canon : List Criterion}
    (h : canonical domain cs = .ok canon) :
    canon = (cs.filter fun c => !c.blank).map (spelled domain) ∧
      ∀ c ∈ cs, c.blank = false → canonicalField domain c.field = .ok (spelled domain c).field := by
  constructor
  · obtain ⟨hrecased, hfields⟩ := canonical_eq_ok_iff.mp h
    exact eq_map_spelled hrecased hfields
  · intro c hc hb
    obtain ⟨t, ht, hsame⟩ := exists_spelling hb (not_refused_of_canonical h c hc)
    have hfield := canonicalField_eq_ok_iff.mpr ⟨ht, hsame⟩
    rw [spelled, hfield]

theorem terms_of_compileChecked {domain : Option Domain} {cs : List Criterion} {query : String}
    (h : compileChecked domain cs = .ok (some query)) :
    (∀ c ∈ cs, c.blank = false → (spelled domain c).field ∈ registered ∧
      sameUpToCase (spelled domain c).field c.field = true) ∧
    ∃ n : NormalForm, query.toList = n.text ∧ (∀ t ∈ n.terms, t.Sound) ∧
      ∀ t, t ∈ n.terms ↔ ∃ c ∈ cs, c.blank = false ∧ Term.ofCriterion (spelled domain c) = t := by
  obtain ⟨canon, hcanon, hcompile⟩ := compileChecked_eq_ok_iff.mp h
  obtain ⟨hmap, hfields⟩ := canonical_eq_ok hcanon
  have hspelled (c : Criterion) (hc : c ∈ cs) (hb : c.blank = false) :=
    canonicalField_spec (hfields c hc hb)
  have hregistered : ∀ c ∈ canon, c.field ∈ registered := by
    intro c' hc'
    rw [hmap] at hc'
    obtain ⟨c, hmem, rfl⟩ := List.mem_map.mp hc'
    obtain ⟨hc, hb⟩ := List.mem_filter.mp hmem
    exact (hspelled c hc ((Bool.not_eq_true' _).mp hb)).1
  rw [compile_eq_text] at hcompile
  obtain ⟨n, hn, rfl⟩ := Option.map_eq_some_iff.mp hcompile
  refine ⟨hspelled, n, String.toList_ofList, NormalForm.sound hregistered hn, fun t => ?_⟩
  have hblank : (fun c : Criterion => !c.blank) ∘ spelled domain = fun c => !c.blank := by
    funext c
    simp only [Function.comp_apply, Criterion.blank, spelled_value]
  rw [terms_normalForm hn, surviving, hmap, List.filter_map, hblank, List.filter_filter]
  simp [and_assoc]

end Query

def Criterion.Uses (d : Domain) (c : Criterion) : Prop :=
  c.blank = false ∧ ∃ token ∈ d.tokens, sameUpToCase token c.field = true

namespace Query

variable {domain : Option Domain} {cs : List Criterion} {query : String} {d : Domain}

theorem appliesTo_compile (hq : compile cs = some query) {c : Criterion} (hc : c ∈ cs)
    (hb : c.blank = false) (hf : c.field ∈ d.tokens) : d.appliesTo query = true := by
  rw [compile_eq_text] at hq
  obtain ⟨n, hn, rfl⟩ := Option.map_eq_some_iff.mp hq
  have hterm : Term.ofCriterion c ∈ n.terms := by
    rw [terms_normalForm hn, surviving, List.map_map]
    exact List.mem_map.mpr ⟨c, List.mem_filter.mpr ⟨hc, by simp [hb]⟩, rfl⟩
  obtain ⟨a, b, heq⟩ := text_infix_text hterm
  refine (d.appliesTo_iff _).mpr ⟨c.field, hf, a, c.field.toList, ?_⟩
  refine ⟨quote (Term.ofCriterion c).value.toList ++ b, ?_, ?_⟩
  · rw [String.toList_ofList, ← heq, Term.text]
    simp [Term.ofCriterion]
  · exact (letters_of_registered c.field (mem_registered hf)).2

theorem appliesTo_of_uses (h : compileChecked domain cs = .ok (some query))
    (huses : ∃ c ∈ cs, c.Uses d) : d.appliesTo query = true := by
  obtain ⟨c, hc, hb, token, htoken, hsame⟩ := huses
  obtain ⟨canon, hcanon, hcompile⟩ := compileChecked_eq_ok_iff.mp h
  obtain ⟨hmap, hfields⟩ := canonical_eq_ok hcanon
  obtain ⟨hregistered, hspelled⟩ := canonicalField_spec (hfields c hc hb)
  have hfield : (spelled domain c).field = token :=
    eq_of_spells hregistered (mem_registered htoken) hspelled hsame
  have hmem : spelled domain c ∈ canon := by
    rw [hmap]
    exact List.mem_map_of_mem (List.mem_filter.mpr ⟨hc, by simp [hb]⟩)
  refine appliesTo_compile hcompile hmem ?_ (hfield ▸ htoken)
  rw [Criterion.blank, spelled_value]
  exact hb

theorem appliesTo_of_compileChecked_some (h : compileChecked (some d) cs = .ok (some query)) :
    d.appliesTo query = true := by
  obtain ⟨-, n, -, -, hterms⟩ := terms_of_compileChecked h
  obtain ⟨c, hc, hb, -⟩ := (hterms n.first).mp List.mem_cons_self
  obtain ⟨canon, hcanon, -⟩ := compileChecked_eq_ok_iff.mp h
  have hfield := (canonical_eq_ok hcanon).2 c hc hb
  exact appliesTo_of_uses h ⟨c, hc, hb, _, canonicalField_eq_ok_iff.mp hfield⟩

theorem appliesTo_fragment {token value : String} (htoken : token ∈ d.tokens)
    (h : fragment token value = some query) : d.appliesTo query = true := by
  have hcompile : compile [⟨token, value, none⟩] = some query := by
    simp [compile, pieces, h, join]
  have hb : Criterion.blank ⟨token, value, none⟩ = false := by
    by_contra hblank
    rw [fragment_eq ⟨token, value, none⟩, if_pos (by simpa using hblank)] at h
    cases h
  exact appliesTo_compile hcompile List.mem_cons_self hb htoken

/-- Without colons in the values, a token before a colon is the token of some term. -/
theorem uses_of_appliesTo (h : compileChecked domain cs = .ok (some query))
    (hvalues : ∀ c ∈ cs, c.blank = false → ':' ∉ c.value.toList)
    (happlies : d.appliesTo query = true) : ∃ c ∈ cs, c.Uses d := by
  obtain ⟨token, htoken, a, u, b, heq, hu⟩ := (d.appliesTo_iff query).mp happlies
  obtain ⟨hfields, n, htext, hsound, hterms⟩ := terms_of_compileChecked h
  obtain ⟨hspace, -⟩ := letters_of_registered token (mem_registered htoken)
  have hspace' : ' ' ∉ u := by
    intro hmem
    rw [← hu] at hspace
    exact hspace (List.mem_map_of_mem (f := asciiLower) hmem)
  have hclean : ∀ t ∈ n.terms, t.Sound ∧ ':' ∉ t.value.toList := by
    intro t ht
    obtain ⟨c, hc, hb, rfl⟩ := (hterms t).mp ht
    refine ⟨hsound _ ht, ?_⟩
    rw [Term.ofCriterion, String.toList_ofList, spelled_value]
    exact colon_notMem_widen fun hmem => hvalues c hc hb (mem_of_mem_trimChars hmem)
  obtain ⟨t, ht, hsuffix⟩ := suffix_token_of_colon hclean hspace' (htext.symm.trans heq)
  obtain ⟨c, hc, hb, rfl⟩ := (hterms t).mp ht
  obtain ⟨hregistered, hspelled⟩ := hfields c hc hb
  refine ⟨c, hc, hb, token, htoken, ?_⟩
  have hlast : token.toList <:+ (spelled domain c).field.toList := by
    have hmapped := hsuffix.map asciiLower
    rw [hu] at hmapped
    rwa [← (letters_of_registered _ hregistered).2]
  rwa [eq_of_suffix_registered token (mem_registered htoken) _ hregistered hlast]

/-- A query compiled with checked fields applies to the domains of the fields that are searched. To
another domain it applies only if a value holds a colon; without colons in the values it applies to
exactly the domains of the fields. -/
theorem appliesTo_compileChecked (h : compileChecked none cs = .ok (some query)) (d : Domain) :
    ((∃ c ∈ cs, c.Uses d) → d.appliesTo query = true) ∧
    (d.appliesTo query = true →
      (∃ c ∈ cs, c.Uses d) ∨ ∃ c ∈ cs, c.blank = false ∧ ':' ∈ c.value.toList) ∧
    ((∀ c ∈ cs, c.blank = false → ':' ∉ c.value.toList) →
      (d.appliesTo query = true ↔ ∃ c ∈ cs, c.Uses d)) := by
  have hcolon_free (hvalues : ∀ c ∈ cs, c.blank = false → ':' ∉ c.value.toList) :
      d.appliesTo query = true ↔ ∃ c ∈ cs, c.Uses d :=
    ⟨uses_of_appliesTo h hvalues, appliesTo_of_uses h⟩
  refine ⟨appliesTo_of_uses h, fun happlies => ?_, hcolon_free⟩
  by_cases hcolon : ∃ c ∈ cs, c.blank = false ∧ ':' ∈ c.value.toList
  · exact .inr hcolon
  · have hvalues : ∀ c ∈ cs, c.blank = false → ':' ∉ c.value.toList :=
      fun c hc hb hmem => hcolon ⟨c, hc, hb, hmem⟩
    exact .inl ((hcolon_free hvalues).mp happlies)

theorem appliesTo_of_named_and_written_field :
    let named : List Criterion := [⟨"ChannelLevel", " geography ", none⟩, ⟨"isNew", "", some .or⟩]
    let written : List Criterion := [⟨"ChannelLevel", "Geography: any", none⟩]
    compileChecked none named = .ok (some "channellevel:*geography*") ∧
    (∀ d : Domain, d.appliesTo "channellevel:*geography*" = true ↔ ∃ c ∈ named, c.Uses d) ∧
    compileChecked none written = .ok (some "channellevel:\"*Geography: any*\"") ∧
    Domain.location.appliesTo "channellevel:\"*Geography: any*\"" = true ∧
    ((∃ c ∈ written, c.Uses .location) ∨
      ∃ c ∈ written, c.blank = false ∧ ':' ∈ c.value.toList) := by
  intro named written
  have hnamed : compileChecked none named = .ok (some "channellevel:*geography*") := by decide
  have hwritten :
      compileChecked none written = .ok (some "channellevel:\"*Geography: any*\"") := by decide
  have happlies : Domain.location.appliesTo "channellevel:\"*Geography: any*\"" = true := by decide
  refine ⟨hnamed, fun d => ?_, hwritten, happlies, ?_⟩
  · exact (appliesTo_compileChecked hnamed d).2.2 (by decide)
  · exact (appliesTo_compileChecked hwritten .location).2.1 happlies

end Query

end PlanningSearch
