import PlanningSearch.Proofs.Text.Trim
import PlanningSearch.Query

/-!
The normal form of a list of criteria: the criteria that are not blank, each with its token and
its trimmed, widened value, and the operators between them. A query is the text of the normal
form. Terms of registered fields are sound: nothing in the token ends it or opens a quote, and the
value starts with a character that is not blank.
-/

namespace PlanningSearch.Query

structure Term where
  token : String
  value : String
  deriving DecidableEq, Repr

structure NormalForm where
  first : Term
  rest : List (Operator × Term)
  deriving DecidableEq, Repr

def Term.ofCriterion (c : Criterion) : Term :=
  ⟨c.field, String.ofList (widen (Text.trimChars c.value.toList))⟩

/-- The criteria that are not blank, each with the operator in force before it. -/
def surviving (cs : List Criterion) : List (Operator × Term) :=
  (cs.filter fun c => !c.blank).map fun c => (c.joiner, Term.ofCriterion c)

def normalForm? (cs : List Criterion) : Option NormalForm :=
  match surviving cs with
  | [] => none
  | (_, first) :: rest => some ⟨first, rest⟩

def Term.text (t : Term) : List Char := t.token.toList ++ ':' :: quote t.value.toList

def restText : List (Operator × Term) → List Char
  | [] => []
  | p :: ps => ' ' :: (p.1.text.toList ++ ' ' :: (p.2.text ++ restText ps))

def NormalForm.text (n : NormalForm) : List Char := n.first.text ++ restText n.rest

theorem head_restText (ps : List (Operator × Term)) : ∀ c ∈ (restText ps).head?, c = ' ' := by
  cases ps <;> simp [restText]

theorem fragment_eq (c : Criterion) :
    fragment c.field c.value =
      if c.blank then none else some (String.ofList (Term.ofCriterion c).text) := by
  have hb : c.blank = true ↔ Text.trimChars c.value.toList = [] := Text.blank_iff_trimChars
  unfold fragment formatValue
  split
  · rename_i ht
    rw [if_pos (hb.mpr ht)]
    rfl
  · rename_i ht
    rw [if_neg fun h => ht (hb.mp h), Option.map_some, Option.some_inj]
    apply String.toList_inj.mp
    simp [Term.text, Term.ofCriterion]

theorem pieces_eq (cs : List Criterion) :
    pieces cs = (surviving cs).map fun p => (p.1, String.ofList p.2.text) := by
  induction cs with
  | nil => rfl
  | cons c cs ih =>
    unfold pieces surviving at ih ⊢
    cases hb : c.blank <;> simp [fragment_eq c, hb, ih]

theorem foldl_pieces (ps : List (Operator × Term)) (q : String) :
    (ps.map fun p => (p.1, String.ofList p.2.text)).foldl
        (fun q p => q ++ " " ++ p.1.text ++ " " ++ p.2) q =
      q ++ String.ofList (restText ps) := by
  induction ps generalizing q with
  | nil => simp [restText]
  | cons p ps ih =>
    rw [List.map_cons, List.foldl_cons, ih]
    apply String.toList_inj.mp
    simp [restText]

theorem compile_eq_text (cs : List Criterion) :
    compile cs = (normalForm? cs).map fun n => String.ofList n.text := by
  unfold compile normalForm?
  rw [pieces_eq]
  cases surviving cs with
  | nil => rfl
  | cons p ps =>
    rw [List.map_cons, join, foldl_pieces, Option.map_some, Option.some_inj]
    apply String.toList_inj.mp
    simp [NormalForm.text]

theorem compileChecked_blank (domain : Option Domain) {cs : List Criterion}
    (h : ∀ c ∈ cs, c.blank = true) : compileChecked domain cs = .ok none := by
  suffices hnone : canonical domain cs = .ok [] by
    rw [compileChecked, hnone]
    rfl
  induction cs with
  | nil => rfl
  | cons c cs ih =>
    rw [canonical, if_pos (h c List.mem_cons_self)]
    exact ih fun c hc => h c (List.mem_cons_of_mem _ hc)

theorem exists_compile {cs : List Criterion} {c : Criterion} (hc : c ∈ cs) (hb : c.blank = false) :
    ∃ query, compile cs = some query := by
  have hmem : (c.joiner, Term.ofCriterion c) ∈ surviving cs :=
    List.mem_map_of_mem (List.mem_filter.mpr ⟨hc, by simp [hb]⟩)
  rw [compile_eq_text, normalForm?]
  split
  · rename_i hnone
    rw [hnone] at hmem
    exact absurd hmem List.not_mem_nil
  · exact ⟨_, rfl⟩

theorem exists_escape_cons (c : Char) (cs : List Char) :
    ∃ d ds, escape (c :: cs) = d :: ds ∧ d ≠ '"' ∧
      (Text.isBlank c = false → Text.isBlank d = false) := by
  unfold escape
  split
  · exact ⟨'\\', _, rfl, by decide, fun _ => by decide⟩
  · rename_i hc
    exact ⟨c, _, rfl, hc, id⟩

def registered : List String := Domain.all.flatMap Domain.tokens

theorem plain_of_registered : ∀ token ∈ registered, ':' ∉ token.toList ∧ '"' ∉ token.toList := by
  decide

structure Term.Sound (t : Term) : Prop where
  colon : ':' ∉ t.token.toList
  quote : '"' ∉ t.token.toList
  value : ∃ c cs, t.value.toList = c :: cs ∧ Text.isBlank c = false

theorem head_widen {c : Char} {cs : List Char} (h : Text.isBlank c = false) :
    ∃ d ds, widen (c :: cs) = d :: ds ∧ Text.isBlank d = false := by
  unfold widen
  split
  · exact ⟨c, cs, rfl, h⟩
  · exact ⟨'*', _, rfl, by decide⟩

theorem Term.sound_ofCriterion {c : Criterion} (hf : c.field ∈ registered) (hb : c.blank = false) :
    (Term.ofCriterion c).Sound := by
  obtain ⟨colon, quote⟩ := plain_of_registered _ hf
  refine ⟨colon, quote, ?_⟩
  simp only [Term.ofCriterion, String.toList_ofList]
  cases ht : Text.trimChars c.value.toList with
  | nil =>
    rw [Criterion.blank, Text.blank_iff_trimChars.mpr ht] at hb
    cases hb
  | cons d ds => exact head_widen (Text.head_trimChars ht)

theorem surviving_sound {cs : List Criterion} (h : ∀ c ∈ cs, c.field ∈ registered) :
    ∀ p ∈ surviving cs, p.2.Sound := by
  intro p hp
  obtain ⟨c, hc, rfl⟩ := List.mem_map.mp hp
  obtain ⟨hmem, hb⟩ := List.mem_filter.mp hc
  exact Term.sound_ofCriterion (h c hmem) (by simpa using hb)

def NormalForm.terms (n : NormalForm) : List Term := n.first :: n.rest.map Prod.snd

theorem terms_normalForm {cs : List Criterion} {n : NormalForm} (h : normalForm? cs = some n) :
    n.terms = (surviving cs).map Prod.snd := by
  unfold normalForm? at h
  split at h
  · cases h
  · rename_i hs
    cases h
    rw [hs]
    rfl

theorem NormalForm.sound {cs : List Criterion} {n : NormalForm} (hf : ∀ c ∈ cs, c.field ∈ registered)
    (h : normalForm? cs = some n) : ∀ t ∈ n.terms, t.Sound := by
  rw [terms_normalForm h]
  intro t ht
  obtain ⟨p, hp, rfl⟩ := List.mem_map.mp ht
  exact surviving_sound hf p hp

end PlanningSearch.Query
