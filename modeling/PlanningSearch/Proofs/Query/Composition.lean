import PlanningSearch.Proofs.Query.NormalForm

/-!
Queries of appended lists. Only the criteria that are not blank are written, each behind the first
with its operator before it. So a list without such criteria adds nothing to another, and otherwise
the two queries are joined by the operator of the second list's first criterion that is not blank.
-/

namespace PlanningSearch.Query

variable {cs ds : List Criterion}

theorem restText_append (ps qs : List (Operator × Term)) :
    restText (ps ++ qs) = restText ps ++ restText qs := by
  induction ps with
  | nil => rfl
  | cons p ps ih => simp [restText, ih]

theorem surviving_append (cs ds : List Criterion) :
    surviving (cs ++ ds) = surviving cs ++ surviving ds := by
  rw [surviving, List.filter_append, List.map_append]
  rfl

theorem surviving_cons_of_blank {c : Criterion} (h : c.blank = true) :
    surviving (c :: cs) = surviving cs := by
  simp [surviving, h]

theorem surviving_cons {c : Criterion} (h : c.blank = false) :
    surviving (c :: cs) = (c.joiner, Term.ofCriterion c) :: surviving cs := by
  simp [surviving, h]

theorem surviving_eq_nil_iff : surviving cs = [] ↔ ∀ c ∈ cs, c.blank = true := by
  simp [surviving]

theorem surviving_of_find? {c : Criterion} (h : cs.find? (fun c => !c.blank) = some c) :
    ∃ rest, surviving cs = (c.joiner, Term.ofCriterion c) :: rest := by
  rw [← List.head?_filter] at h
  obtain ⟨rest, hrest⟩ := List.head?_eq_some_iff.mp h
  exact ⟨rest.map fun c => (c.joiner, Term.ofCriterion c), by rw [surviving, hrest]; rfl⟩

theorem compile_of_surviving {op : Operator} {first : Term} {rest : List (Operator × Term)}
    (h : surviving cs = (op, first) :: rest) :
    compile cs = some (String.ofList (first.text ++ restText rest)) := by
  rw [compile_eq_text, normalForm?, h]
  rfl

theorem compile_congr (h : surviving cs = surviving ds) : compile cs = compile ds := by
  rw [compile_eq_text, compile_eq_text, normalForm?, normalForm?, h]

theorem compile_filter (cs : List Criterion) :
    compile (cs.filter fun c => !c.blank) = compile cs :=
  compile_congr (by simp [surviving])

theorem compile_eq_none_iff : compile cs = none ↔ ∀ c ∈ cs, c.blank = true := by
  rw [← surviving_eq_nil_iff]
  cases h : surviving cs with
  | nil => simp [compile_eq_text, normalForm?, h]
  | cons p rest => simp [compile_of_surviving h]

theorem compile_singleton (c : Criterion) : compile [c] = fragment c.field c.value := by
  rw [fragment_eq]
  cases hc : c.blank with
  | true => exact compile_eq_none_iff.mpr (by simpa using hc)
  | false =>
    rw [compile_of_surviving (surviving_cons hc)]
    exact congrArg (fun cs => some (String.ofList cs)) (List.append_nil _)

theorem compile_append_of_none_left (h : compile cs = none) : compile (cs ++ ds) = compile ds := by
  refine compile_congr ?_
  rw [surviving_append, surviving_eq_nil_iff.mpr (compile_eq_none_iff.mp h), List.nil_append]

theorem compile_append_of_none_right (h : compile ds = none) :
    compile (cs ++ ds) = compile cs := by
  refine compile_congr ?_
  rw [surviving_append, surviving_eq_nil_iff.mpr (compile_eq_none_iff.mp h), List.append_nil]

theorem compile_append_of_some {q r : String} (hq : compile cs = some q)
    (hr : compile ds = some r) : ∃ d, ds.find? (fun d => !d.blank) = some d ∧
      compile (cs ++ ds) = some (q ++ " " ++ d.joiner.text ++ " " ++ r) := by
  cases hcs : surviving cs with
  | nil =>
    rw [compile_eq_none_iff.mpr (surviving_eq_nil_iff.mp hcs)] at hq
    cases hq
  | cons p ps =>
    cases hfirst : ds.find? fun d => !d.blank with
    | none =>
      have hblank : ∀ d ∈ ds, d.blank = true := by simpa using hfirst
      rw [compile_eq_none_iff.mpr hblank] at hr
      cases hr
    | some d =>
      obtain ⟨rest, hds⟩ := surviving_of_find? hfirst
      have hboth : surviving (cs ++ ds) = p :: (ps ++ (d.joiner, Term.ofCriterion d) :: rest) := by
        rw [surviving_append, hcs, hds, List.cons_append]
      rw [compile_of_surviving hcs, Option.some_inj] at hq
      rw [compile_of_surviving hds, Option.some_inj] at hr
      refine ⟨d, rfl, ?_⟩
      rw [compile_of_surviving hboth, ← hq, ← hr, Option.some_inj]
      apply String.toList_inj.mp
      simp [restText_append, restText]

theorem compile_cons_operator (d : Criterion) (op : Option Operator) :
    compile ({ d with operator := op } :: ds) = compile (d :: ds) := by
  cases hd : d.blank with
  | true =>
    have hd' : Criterion.blank { d with operator := op } = true := hd
    exact compile_congr (by rw [surviving_cons_of_blank hd, surviving_cons_of_blank hd'])
  | false =>
    have hd' : Criterion.blank { d with operator := op } = false := hd
    rw [compile_of_surviving (surviving_cons hd), compile_of_surviving (surviving_cons hd')]
    rfl

/-- There is no query exactly if all criteria are blank. A list without a query changes nothing
about the query of a list that it is appended to, or that is appended to it. Otherwise the queries
of two lists are joined by the operator in force before the first criterion of the second that is
not blank. So blank criteria may be added or left out anywhere, and the operator of the first
criterion that is not blank never matters. -/
theorem compile_composes (cs ds : List Criterion) :
    (compile cs = none ↔ ∀ c ∈ cs, c.blank = true) ∧
    (compile cs = none → compile (cs ++ ds) = compile ds) ∧
    (compile ds = none → compile (cs ++ ds) = compile cs) ∧
    (∀ q r, compile cs = some q → compile ds = some r →
      ∃ d, ds.find? (fun d => !d.blank) = some d ∧
        compile (cs ++ ds) = some (q ++ " " ++ d.joiner.text ++ " " ++ r)) ∧
    ((cs.filter fun c => !c.blank) = (ds.filter fun d => !d.blank) → compile cs = compile ds) ∧
    ((∀ c ∈ cs, c.blank = true) → ∀ d op,
      compile (cs ++ { d with operator := op } :: ds) = compile (cs ++ d :: ds)) := by
  refine ⟨compile_eq_none_iff, compile_append_of_none_left, compile_append_of_none_right,
    fun q r => compile_append_of_some, fun h => ?_, fun h d op => ?_⟩
  · rw [← compile_filter cs, h, compile_filter]
  · have hnone : compile cs = none := compile_eq_none_iff.mpr h
    rw [compile_append_of_none_left hnone, compile_append_of_none_left hnone,
      compile_cons_operator]

theorem compile_composes_of_blank_ends :
    let blank (op : Operator) : Criterion := ⟨"colour", " ", some op⟩
    let cs : List Criterion := [blank .or, ⟨"productid", "P1", some .or⟩, blank .or]
    let ds : List Criterion := [blank .or, ⟨"isnew", "Yes", none⟩, ⟨"geography", "E U", some .or⟩,
      blank .and]
    compile cs = some "productid:*P1*" ∧ compile ds = some "isnew:*Yes* OR geography:\"*E U*\"" ∧
    compile (cs ++ ds) = some "productid:*P1* AND isnew:*Yes* OR geography:\"*E U*\"" ∧
    compile (cs ++ [blank .and]) = compile cs ∧
    compile ([blank .and] ++ ds) = compile ds ∧
    compile (cs.filter fun c => !c.blank) = compile cs ∧
    compile ([blank .or] ++ [⟨"isnew", "No", some .or⟩]) =
      compile ([blank .or] ++ [⟨"isnew", "No", some .and⟩]) := by
  intro blank cs ds
  have hcs : compile cs = some "productid:*P1*" := by decide
  have hds : compile ds = some "isnew:*Yes* OR geography:\"*E U*\"" := by decide
  have hblank : compile [blank .and] = none := by decide
  obtain ⟨-, -, -, hjoined, -, -⟩ := compile_composes cs ds
  obtain ⟨d, hd, hboth⟩ := hjoined _ _ hcs hds
  have hfirst : ds.find? (fun d => !d.blank) = some ⟨"isnew", "Yes", none⟩ := by decide
  obtain rfl : (⟨"isnew", "Yes", none⟩ : Criterion) = d := Option.some.inj (hfirst.symm.trans hd)
  refine ⟨hcs, hds, hboth.trans (by decide), (compile_composes cs [blank .and]).2.2.1 hblank,
    (compile_composes [blank .and] ds).2.1 hblank, ?_, ?_⟩
  · exact (compile_composes (cs.filter fun c => !c.blank) cs).2.2.2.2.1 (by decide)
  · exact (compile_composes [blank .or] []).2.2.2.2.2 (by decide) ⟨"isnew", "No", some .and⟩ _

end PlanningSearch.Query
