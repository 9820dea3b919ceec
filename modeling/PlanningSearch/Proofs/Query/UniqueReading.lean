import Mathlib.Data.List.Basic
import Mathlib.Data.List.Chain
import PlanningSearch.Proofs.Query.NormalForm

/-!
Two searches with the same query have the same normal form. Backslashes are not escaped, so a
closing quote may stand behind one and cannot be told from a quote inside a value by the character
before it. The next quote tells them apart: inside a value it stands behind a backslash, a quote
that opens a value stands behind a colon and before a character that is not blank, and a quote
that closes a value stands before a blank or at the end.
-/

namespace PlanningSearch.Query

theorem split_first {c : Char} {a b x y : List Char} (ha : c ∉ a) (hb : c ∉ b)
    (h : a ++ c :: x = b ++ c :: y) : a = b ∧ x = y := by
  have hl : a.length = b.length := by
    have hi := congrArg (List.idxOf c) h
    simpa [List.idxOf_append_of_notMem ha, List.idxOf_append_of_notMem hb] using hi
  obtain ⟨rfl, htail⟩ := List.append_inj h hl
  exact ⟨rfl, (List.cons.inj htail).2⟩

theorem exists_of_append_eq {c : Char} {p r a b : List Char} (hp : c ∉ p)
    (h : p ++ r = a ++ c :: b) : ∃ m, a = p ++ m ∧ r = m ++ c :: b := by
  obtain ⟨m, ha, hr⟩ | ⟨m, hpm, hcb⟩ := List.append_eq_append_iff.mp h
  · exact ⟨m, ha, hr⟩
  · cases m with
    | nil => exact ⟨[], by simpa using hpm.symm, by simpa using hcb.symm⟩
    | cons d ds =>
      obtain ⟨rfl, -⟩ := List.cons.inj hcb
      exact absurd (hpm ▸ List.mem_append_cons_self) hp

def Inside (c d : Char) : Prop := d = '"' → c = '\\'

theorem isChain_escape (c : Char) (v : List Char) : (c :: escape v).IsChain Inside := by
  induction v generalizing c with
  | nil => exact .singleton c
  | cons d ds ih =>
    unfold escape
    split
    · exact .cons_cons (fun h => absurd h (by decide)) (.cons_cons (fun _ => rfl) (ih '"'))
    · rename_i hd
      exact .cons_cons (fun h => absurd h hd) (ih d)

theorem backslash_before_quote {v a b : List Char} (h : escape v = a ++ '"' :: b) :
    a.getLast? = some '\\' := by
  have hc : (('"' :: a) ++ '"' :: b).IsChain Inside := by
    rw [List.cons_append, ← h]
    exact isChain_escape '"' v
  have hlast := (List.isChain_append.mp hc).2.2
  cases a with
  | nil => exact absurd (hlast '"' rfl '"' rfl rfl) (by decide)
  | cons c cs =>
    obtain ⟨d, hd⟩ := Option.isSome_iff_exists.mp (List.getLast?_isSome.mpr (List.cons_ne_nil c cs))
    rw [hd, hlast d (by rw [List.getLast?_cons_cons]; exact hd) '"' rfl rfl]

theorem escape_ne_quote (v b : List Char) : escape v ≠ '"' :: b := by
  cases v with
  | nil => simp [escape]
  | cons c cs =>
    obtain ⟨d, ds, he, hd, -⟩ := exists_escape_cons c cs
    rw [he]
    exact fun h => hd (List.cons.inj h).1

theorem escape_injective {v w : List Char} (h : escape v = escape w) : v = w := by
  induction v generalizing w with
  | nil =>
    cases w with
    | nil => rfl
    | cons d ds => unfold escape at h; split at h <;> cases h
  | cons c cs ih =>
    cases w with
    | nil => unfold escape at h; split at h <;> cases h
    | cons d ds =>
      simp only [escape] at h
      split at h <;> split at h
      · rename_i hc hd
        rw [hc, hd, ih (List.cons.inj (List.cons.inj h).2).2]
      · exact absurd (List.cons.inj h).2.symm (escape_ne_quote ds _)
      · exact absurd (List.cons.inj h).2 (escape_ne_quote cs _)
      · obtain ⟨rfl, htail⟩ := List.cons.inj h
        rw [ih htail]

def Follows (r : List Char) : Prop := ∀ c ∈ r.head?, c = ' '

def OpensFirst (r : List Char) : Prop :=
  ∀ a b, r = a ++ '"' :: b → '"' ∉ a → a.getLast? = some ':' ∧ ∃ c ∈ b.head?, c ≠ ' '

theorem quote_notMem {v : List Char} (h : v.any needsQuotes = false) : '"' ∉ quote v := by
  intro hq
  rw [quote, h] at hq
  have := List.any_eq_false.mp h '"' hq
  simp [needsQuotes] at this

theorem quote_notMem_operator (op : Operator) : '"' ∉ op.text.toList := by
  cases op <;> decide

theorem opensFirst_restText {ps : List (Operator × Term)} (hs : ∀ p ∈ ps, p.2.Sound) :
    OpensFirst (restText ps) := by
  induction ps with
  | nil => intro a b h; simp [restText] at h
  | cons p ps ih =>
    intro a b h ha
    obtain ⟨hp, hps⟩ := List.forall_mem_cons.mp hs
    obtain ⟨c, cs, hv, hc⟩ := hp.value
    let front := ' ' :: (p.1.text.toList ++ ' ' :: (p.2.token.toList ++ [':']))
    have hfront : '"' ∉ front := by simp [front, quote_notMem_operator, hp.quote]
    have hlast : front.getLast? = some ':' := by simp [front, List.getLast?_append, List.getLast?_cons]
    have htext : restText (p :: ps) = front ++ (quote p.2.value.toList ++ restText ps) := by
      simp [restText, Term.text, front]
    rw [htext] at h
    cases hq : p.2.value.toList.any needsQuotes with
    | true =>
      -- the first quote is the one that opens this value
      rw [quote, if_pos hq, List.append_assoc, List.cons_append] at h
      obtain ⟨rfl, rfl⟩ := split_first hfront ha h
      obtain ⟨d, ds, he, -, hd⟩ := exists_escape_cons c cs
      refine ⟨hlast, d, by simp [hv, he], ?_⟩
      rintro rfl
      exact absurd (hd hc) (by decide)
    | false =>
      rw [← List.append_assoc] at h
      obtain ⟨m, rfl, hr⟩ := exists_of_append_eq (by simp [hfront, quote_notMem hq]) h
      obtain ⟨hm, hb⟩ := ih hps m b hr fun hm => ha (List.mem_append_right _ hm)
      exact ⟨by rw [List.getLast?_append, hm]; rfl, hb⟩

/-- No quote inside a value can be taken for the quote that closes another one. -/
theorem no_early_close {e m r s : List Char} (he : ∃ v, escape v = e ++ '"' :: m)
    (hr : OpensFirst r) (hs : Follows s) (h : r = m ++ '"' :: s) : False := by
  obtain ⟨v, hv⟩ := he
  by_cases hm : '"' ∈ m
  · obtain ⟨a, b, rfl, ha⟩ := List.eq_append_cons_of_mem hm
    have hcolon := (hr a (b ++ '"' :: s) (by simpa using h) ha).1
    have hslash := backslash_before_quote (a := e ++ '"' :: a) (b := b) (by simpa using hv)
    rw [List.getLast?_append, List.getLast?_cons, hcolon] at hslash
    simp at hslash
  · obtain ⟨c, hc, hne⟩ := (hr m s h hm).2
    exact hne (hs c hc)

theorem escape_append_inj {v w r s : List Char} (hr : OpensFirst r) (hs : OpensFirst s)
    (fr : Follows r) (fs : Follows s) (h : escape v ++ '"' :: r = escape w ++ '"' :: s) :
    v = w ∧ r = s := by
  obtain ⟨m, hw, hm⟩ | ⟨m, hv, hm⟩ := List.append_eq_append_iff.mp h
  · cases m with
    | nil => exact ⟨escape_injective (by simpa using hw.symm), (List.cons.inj hm).2⟩
    | cons c m =>
      obtain ⟨rfl, hr'⟩ := List.cons.inj hm
      exact (no_early_close ⟨w, hw⟩ hr fs hr').elim
  · cases m with
    | nil => exact ⟨escape_injective (by simpa using hv), (List.cons.inj hm).2.symm⟩
    | cons c m =>
      obtain ⟨rfl, hs'⟩ := List.cons.inj hm
      exact (no_early_close ⟨v, hv⟩ hs fr hs').elim

theorem space_notMem {v : List Char} (h : v.any needsQuotes = false) : ' ' ∉ v := by
  intro hm
  have := List.any_eq_false.mp h ' ' hm
  exact this (by decide)

theorem takeWhile_append_follows {v r : List Char} (hv : ' ' ∉ v) (hr : Follows r) :
    (v ++ r).takeWhile (· != ' ') = v := by
  have hall : ∀ c ∈ v, (c != ' ') = true := fun c hc => by
    simpa using fun h : c = ' ' => hv (h ▸ hc)
  rw [List.takeWhile_append_of_pos hall]
  cases r with
  | nil => simp
  | cons c cs => simp [hr c rfl]

theorem quote_append_inj {v w r s : List Char} (hv : v ≠ []) (hw : w ≠ [])
    (hr : OpensFirst r) (hs : OpensFirst s) (fr : Follows r) (fs : Follows s)
    (h : quote v ++ r = quote w ++ s) : v = w ∧ r = s := by
  have unquoted {x y a b : List Char} (hx : x ≠ []) (hq : x.any needsQuotes = false)
      (h : x ++ a = '"' :: y ++ b) : False := by
    cases x with
    | nil => exact hx rfl
    | cons c cs =>
      obtain ⟨rfl, -⟩ := List.cons.inj h
      exact List.any_eq_false.mp hq '"' List.mem_cons_self (by decide)
  unfold quote at h
  cases hqv : v.any needsQuotes <;> cases hqw : w.any needsQuotes <;>
    simp only [hqv, hqw, if_true, if_false, Bool.false_eq_true] at h
  · have hvw : v = w := by
      rw [← takeWhile_append_follows (space_notMem hqv) fr, h,
        takeWhile_append_follows (space_notMem hqw) fs]
    subst hvw
    exact ⟨rfl, List.append_cancel_left h⟩
  · exact (unquoted hv hqv h).elim
  · exact (unquoted hw hqw h.symm).elim
  · simp only [List.cons_append, List.append_assoc, List.cons.injEq, true_and] at h
    exact escape_append_inj hr hs fr fs h

theorem term_text_append_inj {t u : Term} (ht : t.Sound) (hu : u.Sound) {r s : List Char}
    (hr : OpensFirst r) (hs : OpensFirst s) (fr : Follows r) (fs : Follows s)
    (h : t.text ++ r = u.text ++ s) : t = u ∧ r = s := by
  obtain ⟨c, cs, hv, -⟩ := ht.value
  obtain ⟨d, ds, hw, -⟩ := hu.value
  simp only [Term.text, List.append_assoc, List.cons_append] at h
  obtain ⟨htoken, hrest⟩ := split_first ht.colon hu.colon h
  obtain ⟨hvalue, rfl⟩ := quote_append_inj (by simp [hv]) (by simp [hw]) hr hs fr fs hrest
  refine ⟨?_, rfl⟩
  obtain ⟨token, value⟩ := t
  obtain ⟨token', value'⟩ := u
  rw [String.toList_inj] at htoken hvalue
  exact congr (congrArg Term.mk htoken) hvalue

theorem operator_text_append_inj {o o' : Operator} {r s : List Char}
    (h : o.text.toList ++ r = o'.text.toList ++ s) : o = o' ∧ r = s := by
  cases o <;> cases o' <;> simp_all [Operator.text]

theorem restText_injective {ps qs : List (Operator × Term)} (hp : ∀ p ∈ ps, p.2.Sound)
    (hq : ∀ q ∈ qs, q.2.Sound) (h : restText ps = restText qs) : ps = qs := by
  induction ps generalizing qs with
  | nil =>
    cases qs with
    | nil => rfl
    | cons q qs => cases h
  | cons p ps ih =>
    cases qs with
    | nil => cases h
    | cons q qs =>
      obtain ⟨hp, hps⟩ := List.forall_mem_cons.mp hp
      obtain ⟨hq, hqs⟩ := List.forall_mem_cons.mp hq
      obtain ⟨hop, hterms⟩ := operator_text_append_inj (List.cons.inj h).2
      obtain ⟨hterm, hrest⟩ := term_text_append_inj hp hq (opensFirst_restText hps)
        (opensFirst_restText hqs) (head_restText ps) (head_restText qs)
        (List.cons.inj hterms).2
      rw [ih hps hqs hrest, Prod.ext hop hterm]

theorem normalForm_text_injective {m n : NormalForm} (hm : ∀ t ∈ m.terms, t.Sound)
    (hn : ∀ t ∈ n.terms, t.Sound) (h : m.text = n.text) : m = n := by
  obtain ⟨first, rest⟩ := m
  obtain ⟨first', rest'⟩ := n
  simp only [NormalForm.terms, List.forall_mem_cons, List.forall_mem_map] at hm hn
  obtain ⟨hfirst, hrest⟩ := term_text_append_inj hm.1 hn.1 (opensFirst_restText hm.2)
    (opensFirst_restText hn.2) (head_restText rest) (head_restText rest') h
  rw [hfirst, restText_injective hm.2 hn.2 hrest]

/-- Compilation loses nothing but blank criteria, the blanks around a value and the operator in
front of the first term: searches with one query have one normal form, whatever their values
hold. -/
theorem compile_eq_compile_iff {as bs : List Criterion} (ha : ∀ c ∈ as, c.field ∈ registered)
    (hb : ∀ c ∈ bs, c.field ∈ registered) :
    compile as = compile bs ↔ normalForm? as = normalForm? bs := by
  rw [compile_eq_text, compile_eq_text]
  refine ⟨fun h => ?_, fun h => by rw [h]⟩
  cases hm : normalForm? as with
  | none =>
    cases hn : normalForm? bs with
    | none => rfl
    | some n => rw [hm, hn] at h; cases h
  | some m =>
    cases hn : normalForm? bs with
    | none => rw [hm, hn] at h; cases h
    | some n =>
      rw [hm, hn, Option.map_some, Option.map_some, Option.some_inj, String.ofList_inj] at h
      rw [normalForm_text_injective (NormalForm.sound ha hm) (NormalForm.sound hb hn) h]

theorem compile_ne_of_embedded_criterion :
    (∀ c ∈ [Criterion.mk "productid" ".x y\\" none, .mk "channelid" "z w." none],
      c.field ∈ registered) ∧
    (∀ c ∈ [Criterion.mk "productid" ".x y\" AND channelid:\"z w." none],
      c.field ∈ registered) ∧
    compile [.mk "productid" ".x y\\" none, .mk "channelid" "z w." none] ≠
      compile [.mk "productid" ".x y\" AND channelid:\"z w." none] :=
  ⟨by decide, by decide, fun h =>
    absurd ((compile_eq_compile_iff (by decide) (by decide)).mp h) (by decide)⟩

end PlanningSearch.Query
