import Mathlib.Data.List.TakeWhile
import PlanningSearch.Proofs.Query.NormalForm

/-!
A left-to-right reader of queries. A token ends at the first colon. A value that starts with a
quote ends at the first quote that does not stand behind a backslash, and `\"` inside it is read as
a quote; any other value ends at the next space. An operator between spaces follows, and another
term. The reader gives back what was compiled unless some quoted value ends in a backslash, which
is not escaped and hides the closing quote.
-/

namespace PlanningSearch.Query

def readQuoted : List Char → Option (List Char × List Char)
  | [] => none
  | '"' :: cs => some ([], cs)
  | '\\' :: '"' :: cs => (readQuoted cs).map fun r => ('"' :: r.1, r.2)
  | c :: cs => (readQuoted cs).map fun r => (c :: r.1, r.2)

def readValue : List Char → Option (List Char × List Char)
  | '"' :: cs => readQuoted cs
  | cs => some (cs.takeWhile (· != ' '), cs.dropWhile (· != ' '))

def readTerm (cs : List Char) : Option (Term × List Char) :=
  match cs.dropWhile (· != ':') with
  | [] => none
  | _ :: rest => (readValue rest).map fun r =>
      (⟨String.ofList (cs.takeWhile (· != ':')), String.ofList r.1⟩, r.2)

def readOperator : List Char → Option (Operator × List Char)
  | ' ' :: 'A' :: 'N' :: 'D' :: ' ' :: cs => some (.and, cs)
  | ' ' :: 'O' :: 'R' :: ' ' :: cs => some (.or, cs)
  | _ => none

def readJoined (cs : List Char) : Option ((Operator × Term) × List Char) :=
  (readOperator cs).bind fun o => (readTerm o.2).map fun t => ((o.1, t.1), t.2)

theorem readQuoted_length {cs : List Char} {r : List Char × List Char}
    (h : readQuoted cs = some r) : r.2.length < cs.length := by
  induction cs using readQuoted.induct generalizing r with
  | case1 => cases h
  | case2 cs => cases h; simp
  | case3 cs ih =>
    obtain ⟨r, hr, rfl⟩ := Option.map_eq_some_iff.mp h
    have := ih hr
    simp only [List.length_cons]
    omega
  | case4 c cs hc he ih =>
    rw [readQuoted] at h
    · obtain ⟨r, hr, rfl⟩ := Option.map_eq_some_iff.mp h
      have := ih hr
      simp only [List.length_cons]
      omega
    · exact hc
    · exact he

theorem readValue_length {cs : List Char} {r : List Char × List Char}
    (h : readValue cs = some r) : r.2.length ≤ cs.length := by
  unfold readValue at h
  split at h
  · exact (readQuoted_length h).le.trans (Nat.le_succ _)
  · cases h
    exact (List.dropWhile_suffix _).length_le

theorem readTerm_length {cs : List Char} {r : Term × List Char} (h : readTerm cs = some r) :
    r.2.length < cs.length := by
  have hd := (List.dropWhile_suffix (· != ':') (l := cs)).length_le
  unfold readTerm at h
  split at h
  · cases h
  · rename_i hc
    obtain ⟨v, hv, rfl⟩ := Option.map_eq_some_iff.mp h
    have := readValue_length hv
    rw [hc, List.length_cons] at hd
    exact Nat.lt_of_lt_of_le (Nat.lt_succ_of_le this) hd

theorem readOperator_length {cs : List Char} {r : Operator × List Char}
    (h : readOperator cs = some r) : r.2.length < cs.length := by
  unfold readOperator at h
  split at h <;> cases h <;> simp only [List.length_cons] <;> omega

theorem readJoined_length {cs : List Char} {r : (Operator × Term) × List Char}
    (h : readJoined cs = some r) : r.2.length < cs.length := by
  obtain ⟨o, ho, ht⟩ := Option.bind_eq_some_iff.mp h
  obtain ⟨t, hr, rfl⟩ := Option.map_eq_some_iff.mp ht
  exact (readTerm_length hr).trans (readOperator_length ho)

def readRest (cs : List Char) : Option (List (Operator × Term)) :=
  if cs = [] then some []
  else match _ : readJoined cs with
    | none => none
    | some r => (readRest r.2).map fun ps => r.1 :: ps
termination_by cs.length
decreasing_by exact readJoined_length (by assumption)

def read (query : String) : Option NormalForm :=
  (readTerm query.toList).bind fun t => (readRest t.2).map fun ps => ⟨t.1, ps⟩

/-- A quoted value that ends in a backslash hides its closing quote from the reader. -/
def Term.HidesQuote (t : Term) : Prop :=
  t.value.toList.any needsQuotes = true ∧ t.value.toList.getLast? = some '\\'

theorem readQuoted_cons {c : Char} {cs : List Char} (hc : c ≠ '"')
    (hcs : c = '\\' → ∀ ds, cs ≠ '"' :: ds) :
    readQuoted (c :: cs) = (readQuoted cs).map fun r => (c :: r.1, r.2) := by
  rw [readQuoted]
  · exact fun h => hc h
  · exact fun ds h => hcs h ds

theorem escape_append_ne_quote {v : List Char} (hv : v ≠ []) (b ds : List Char) :
    escape v ++ b ≠ '"' :: ds := by
  obtain ⟨c, cs, rfl⟩ := List.exists_cons_of_ne_nil hv
  obtain ⟨d, es, he, hd, -⟩ := exists_escape_cons c cs
  rw [he]
  exact fun h => hd (List.cons.inj h).1

theorem readQuoted_escape {v : List Char} (hv : v.getLast? ≠ some '\\') (r : List Char) :
    readQuoted (escape v ++ '"' :: r) = some (v, r) := by
  induction v with
  | nil => rfl
  | cons c cs ih =>
    have hcs : cs.getLast? ≠ some '\\' := by
      intro h
      exact hv (by rw [List.getLast?_cons, h]; rfl)
    unfold escape
    split
    · rename_i hc
      rw [List.cons_append, List.cons_append, readQuoted, ih hcs, hc]
      rfl
    · rename_i hc
      rw [List.cons_append, readQuoted_cons hc, ih hcs]
      · rfl
      · rintro rfl ds
        refine escape_append_ne_quote ?_ _ ds
        rintro rfl
        exact hv rfl

theorem readQuoted_escape_backslash (u r : List Char) :
    readQuoted (escape (u ++ ['\\']) ++ '"' :: r) =
      (readQuoted r).map fun x => (u ++ '"' :: x.1, x.2) := by
  induction u with
  | nil => rfl
  | cons c cs ih =>
    rw [List.cons_append, escape]
    split
    · rename_i hc
      rw [List.cons_append, List.cons_append, readQuoted, ih, hc, Option.map_map]
      rfl
    · rename_i hc
      rw [List.cons_append, readQuoted_cons hc, ih, Option.map_map]
      · rfl
      · exact fun _ ds => escape_append_ne_quote (by simp) _ ds

theorem readQuoted_nil {cs r : List Char} (h : readQuoted cs = some ([], r)) : cs = '"' :: r := by
  unfold readQuoted at h
  split at h
  · cases h
  · cases h
    rfl
  · obtain ⟨x, -, hx⟩ := Option.map_eq_some_iff.mp h
    cases hx
  · obtain ⟨x, -, hx⟩ := Option.map_eq_some_iff.mp h
    cases hx

/-- No text is read as a quoted value that ends in a backslash. -/
theorem readQuoted_getLast {cs v r : List Char} (h : readQuoted cs = some (v, r)) :
    v.getLast? ≠ some '\\' := by
  induction cs using readQuoted.induct generalizing v r with
  | case1 => cases h
  | case2 cs =>
    cases h
    simp
  | case3 cs ih =>
    obtain ⟨⟨w, rest⟩, hr, heq⟩ := Option.map_eq_some_iff.mp h
    cases heq
    cases w with
    | nil => simp
    | cons d ds =>
      rw [List.getLast?_cons_cons]
      exact ih hr
  | case4 c cs hc he ih =>
    rw [readQuoted_cons hc fun hb ds => he ds hb] at h
    obtain ⟨⟨w, rest⟩, hr, heq⟩ := Option.map_eq_some_iff.mp h
    cases heq
    cases w with
    | nil =>
      -- the value ends with this character, so its closing quote is next
      intro hlast
      exact he rest (Option.some.inj hlast) (readQuoted_nil hr)
    | cons d ds =>
      rw [List.getLast?_cons_cons]
      exact ih hr

theorem readTerm_getLast {cs : List Char} {r : Term × List Char} (h : readTerm cs = some r)
    (hs : ' ' ∈ r.1.value.toList) : r.1.value.toList.getLast? ≠ some '\\' := by
  unfold readTerm at h
  split at h
  · cases h
  · obtain ⟨v, hv, rfl⟩ := Option.map_eq_some_iff.mp h
    rw [String.toList_ofList] at hs ⊢
    unfold readValue at hv
    split at hv
    · exact readQuoted_getLast hv
    · cases hv
      have hne := List.mem_takeWhile_imp hs
      simp at hne

theorem readTerm_text {t : Term} (ht : t.Sound) (r : List Char) :
    readTerm (t.text ++ r) =
      (readValue (quote t.value.toList ++ r)).map fun v => (⟨t.token, String.ofList v.1⟩, v.2) := by
  have hne : ∀ c ∈ t.token.toList, (c != ':') = true := by
    intro c hc
    simpa using fun h : c = ':' => ht.colon (h ▸ hc)
  have hd : (t.text ++ r).dropWhile (· != ':') = ':' :: (quote t.value.toList ++ r) := by
    rw [Term.text, List.append_assoc, List.dropWhile_append_of_pos hne]
    rfl
  have hw : (t.text ++ r).takeWhile (· != ':') = t.token.toList := by
    rw [Term.text, List.append_assoc, List.takeWhile_append_of_pos hne]
    simp
  simp only [readTerm, hd, hw, String.ofList_toList]

theorem readValue_quoted (v r : List Char) (h : v.any needsQuotes = true) :
    readValue (quote v ++ r) = readQuoted (escape v ++ '"' :: r) := by
  simp only [quote, h, if_true, List.cons_append, List.append_assoc, List.nil_append, readValue]

theorem readValue_plain {v r : List Char} (hv : v ≠ []) (h : v.any needsQuotes = false)
    (hr : ∀ c ∈ r.head?, c = ' ') : readValue (quote v ++ r) = some (v, r) := by
  have hne : ∀ c ∈ v, (c != ' ') = true := by
    intro c hc
    have := List.any_eq_false.mp h c hc
    simpa using fun hs : c = ' ' => this (hs ▸ by decide)
  obtain ⟨c, cs, rfl⟩ := List.exists_cons_of_ne_nil hv
  have hq : c ≠ '"' := fun hc => List.any_eq_false.mp h c List.mem_cons_self (hc ▸ by decide)
  rw [quote, if_neg (by rw [h]; decide), List.cons_append, readValue]
  · rw [← List.cons_append, List.takeWhile_append_of_pos hne, List.dropWhile_append_of_pos hne]
    cases r with
    | nil => simp
    | cons d ds => simp [hr d rfl]
  · exact fun ds hds => hq (List.cons.inj hds).1

theorem readTerm_of_shown {t : Term} (ht : t.Sound) (hq : ¬ t.HidesQuote) {r : List Char}
    (hr : ∀ c ∈ r.head?, c = ' ') : readTerm (t.text ++ r) = some (t, r) := by
  obtain ⟨c, cs, hv, -⟩ := ht.value
  have hread : readValue (quote t.value.toList ++ r) = some (t.value.toList, r) := by
    cases h : t.value.toList.any needsQuotes with
    | true => rw [readValue_quoted _ _ h, readQuoted_escape fun hl => hq ⟨h, hl⟩]
    | false => exact readValue_plain (by simp [hv]) h hr
  rw [readTerm_text ht, hread, Option.map_some, String.ofList_toList]

theorem readTerm_of_hidden {t : Term} (ht : t.Sound) (hq : t.HidesQuote) (r : List Char) :
    ∀ x ∈ readTerm (t.text ++ r), x.1 ≠ t := by
  obtain ⟨hneeds, hlast⟩ := hq
  obtain ⟨u, hu⟩ := List.getLast?_eq_some_iff.mp hlast
  rw [readTerm_text ht, readValue_quoted _ _ hneeds, hu, readQuoted_escape_backslash]
  intro x hx
  obtain ⟨v, hv, rfl⟩ := Option.map_eq_some_iff.mp hx
  obtain ⟨w, -, rfl⟩ := Option.map_eq_some_iff.mp hv
  intro h
  have hvalue : u ++ '"' :: w.1 = u ++ ['\\'] := by
    rw [← hu, ← h, String.toList_ofList]
  exact absurd (List.cons.inj (List.append_cancel_left hvalue)).1 (by decide)

theorem readRest_eq {cs : List Char} (h : cs ≠ []) :
    readRest cs = (readJoined cs).bind fun r => (readRest r.2).map fun ps => r.1 :: ps := by
  rw [readRest, if_neg h]
  split
  · rename_i hj
    rw [hj, Option.bind_none]
  · rename_i r hj
    rw [hj, Option.bind_some]

theorem readJoined_restText (p : Operator × Term) (ps : List (Operator × Term)) :
    readJoined (restText (p :: ps)) =
      (readTerm (p.2.text ++ restText ps)).map fun t => ((p.1, t.1), t.2) := by
  have hop : readOperator (restText (p :: ps)) = some (p.1, p.2.text ++ restText ps) := by
    obtain ⟨op, t⟩ := p
    cases op <;> simp [restText, readOperator, Operator.text]
  rw [readJoined, hop, Option.bind_some]

theorem readRest_restText {ps : List (Operator × Term)} (hs : ∀ p ∈ ps, p.2.Sound) :
    readRest (restText ps) = some ps ↔ ∀ p ∈ ps, ¬ p.2.HidesQuote := by
  induction ps with
  | nil => simp [restText, readRest]
  | cons p ps ih =>
    obtain ⟨hp, hps⟩ := List.forall_mem_cons.mp hs
    rw [readRest_eq (by simp [restText]), readJoined_restText, List.forall_mem_cons]
    by_cases hq : p.2.HidesQuote
    · refine iff_of_false ?_ fun h => h.1 hq
      intro h
      obtain ⟨x, hx, hrest⟩ := Option.bind_eq_some_iff.mp h
      obtain ⟨t, ht, rfl⟩ := Option.map_eq_some_iff.mp hx
      obtain ⟨qs, -, heq⟩ := Option.map_eq_some_iff.mp hrest
      refine readTerm_of_hidden hp hq _ t ht ?_
      rw [← (List.cons.inj heq).1]
    · rw [readTerm_of_shown hp hq (head_restText ps), Option.map_some, Option.bind_some]
      simp [ih hps, hq]

theorem read_text {n : NormalForm} (hs : ∀ t ∈ n.terms, t.Sound) :
    read (String.ofList n.text) = some n ↔ ∀ t ∈ n.terms, ¬ t.HidesQuote := by
  obtain ⟨first, rest⟩ := n
  simp only [NormalForm.terms, List.forall_mem_cons, List.forall_mem_map] at hs ⊢
  rw [read, String.toList_ofList, NormalForm.text]
  by_cases hq : first.HidesQuote
  · refine iff_of_false ?_ fun h => h.1 hq
    intro h
    obtain ⟨t, ht, hrest⟩ := Option.bind_eq_some_iff.mp h
    obtain ⟨qs, -, heq⟩ := Option.map_eq_some_iff.mp hrest
    exact readTerm_of_hidden hs.1 hq _ t ht (NormalForm.mk.inj heq).1
  · rw [readTerm_of_shown hs.1 hq (head_restText rest), Option.bind_some, and_iff_right hq,
      ← readRest_restText hs.2]
    simp

def hidesQuote (value : String) : Bool :=
  let v := Text.trimChars value.toList
  v.any isWildcard && v.any needsQuotes && v.getLast? == some '\\'

theorem hidesQuote_ofCriterion (c : Criterion) :
    (Term.ofCriterion c).HidesQuote ↔ hidesQuote c.value = true := by
  simp only [Term.HidesQuote, Term.ofCriterion, String.toList_ofList, hidesQuote, widen,
    Bool.and_eq_true, beq_iff_eq]
  split
  · rename_i hw
    simp only [hw, true_and]
  · rename_i hw
    rw [List.getLast?_concat]
    simp [hw]

/-- A query is read back as the criteria it was compiled from exactly if none of their values is
written in quotes with a backslash at its end. -/
theorem read_compile_iff {cs : List Criterion} {q : String} (hf : ∀ c ∈ cs, c.field ∈ registered)
    (hq : compile cs = some q) :
    read q = normalForm? cs ↔ ∀ c ∈ cs, hidesQuote c.value = false := by
  rw [compile_eq_text] at hq
  obtain ⟨n, hn, rfl⟩ := Option.map_eq_some_iff.mp hq
  rw [hn, read_text (NormalForm.sound hf hn), terms_normalForm hn]
  simp only [surviving, List.forall_mem_map, List.mem_filter, Bool.not_eq_eq_eq_not, Bool.not_true,
    and_imp, hidesQuote_ofCriterion, Bool.not_eq_true]
  refine forall₂_congr fun c _ => ⟨fun h => ?_, fun h _ => h⟩
  cases hb : c.blank with
  | false => exact h hb
  | true => simp [hidesQuote, Text.blank_iff_trimChars.mp hb]

theorem read_compile_of_quotes_and_colons :
    (∀ c ∈ [Criterion.mk "productid" "12\" \\\" pan" none, .mk "channelid" "a:b\\" (some .or)],
      c.field ∈ registered) ∧
    compile [.mk "productid" "12\" \\\" pan" none, .mk "channelid" "a:b\\" (some .or)] =
      some "productid:\"*12\\\" \\\\\" pan*\" OR channelid:\"*a:b\\*\"" ∧
    (∀ c ∈ [Criterion.mk "productid" "12\" \\\" pan" none, .mk "channelid" "a:b\\" (some .or)],
      hidesQuote c.value = false) ∧
    read "productid:\"*12\\\" \\\\\" pan*\" OR channelid:\"*a:b\\*\"" =
      normalForm? [.mk "productid" "12\" \\\" pan" none, .mk "channelid" "a:b\\" (some .or)] :=
  ⟨by decide, by decide, by decide, (read_compile_iff (by decide) (by decide)).mpr (by decide)⟩

/-- The closing quote of this value is read as part of it. No text at all is read as the criterion:
a value with a space has to be quoted, and a quoted value does not end in a backslash. -/
theorem read_compile_of_backslash :
    compile [.mk "productid" "a. b\\" none] = some "productid:\"a. b\\\"" ∧
    read "productid:\"a. b\\\"" = none ∧
    normalForm? [.mk "productid" "a. b\\" none] = some ⟨⟨"productid", "a. b\\"⟩, []⟩ ∧
    ∀ q, read q ≠ normalForm? [.mk "productid" "a. b\\" none] := by
  refine ⟨by decide, by decide, by decide, fun q h => ?_⟩
  have hn : normalForm? [.mk "productid" "a. b\\" none] = some ⟨⟨"productid", "a. b\\"⟩, []⟩ := by
    decide
  obtain ⟨t, ht, hrest⟩ := Option.bind_eq_some_iff.mp (h.trans hn)
  obtain ⟨ps, -, heq⟩ := Option.map_eq_some_iff.mp hrest
  have hfirst : t.1 = ⟨"productid", "a. b\\"⟩ := (NormalForm.mk.inj heq).1
  refine readTerm_getLast ht ?_ ?_ <;> rw [hfirst] <;> decide

end PlanningSearch.Query
