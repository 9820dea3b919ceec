import Mathlib.Data.List.Nodup
import PlanningSearch.Proofs.Builder

/-!
The criteria of a builder are canonical. However a builder is operated and saved, its criteria have
registered fields and trimmed values, carry their operators and are distinct. So there is a query
as soon as there are criteria, checking the criteria changes nothing about it, and an operation
that fails leaves the builder as it was.
-/

namespace PlanningSearch

theorem Query.canonicalField_of_registered : ∀ token ∈ registered,
    canonicalField none token = .ok token := by
  decide

theorem Query.canonical_of_registered {cs : List Criterion}
    (h : ∀ c ∈ cs, c.field ∈ registered ∧ c.blank = false) : canonical none cs = .ok cs := by
  induction cs with
  | nil => rfl
  | cons c cs ih =>
    obtain ⟨⟨hfield, hblank⟩, hrest⟩ := List.forall_mem_cons.mp h
    simp [canonical, hblank, canonicalField_of_registered c.field hfield, ih hrest]

namespace Builder

inductive Step where
  | operate (a : Action)
  | save (store : SavedSearches) (now : Instant) (name : String)

inductive Answer where
  | nothing
  | refused (e : SearchError)
  | flag (b : Bool)
  | removed (c : Option Criterion)
  | saved (r : Except SearchError (SavedSearches × SavedSearch))

def Answer.failed : Answer → Bool
  | nothing => false
  | refused _ => true
  | flag b => !b
  | removed c => c.isNone
  | saved r => r.toOption.isNone

def answer (b : Builder) : Action → Answer
  | .setField token =>
    match b.setField token with
    | .ok _ => .nothing
    | .error e => .refused e
  | .add value => .flag (b.add value).2
  | .remove i => .removed (b.remove i).2
  | .setOperator i op => .flag (b.setOperator i op).2
  | .setDomain _ | .setNextOperator _ | .clear => .nothing

def step (b : Builder) : Step → Builder × Answer
  | .operate a => (b.act a, b.answer a)
  | .save store now name => (b, .saved (b.save store now name))

def work (b : Builder) (steps : List Step) : Builder := steps.foldl (fun b s => (b.step s).1) b

def keys (b : Builder) : List (String × String) := b.criteria.map fun c => (c.field, c.value)

structure Canonical (b : Builder) : Prop extends b.Sound where
  trimmed : ∀ c ∈ b.criteria, Text.trim c.value = c.value
  joined : ∀ c ∈ b.criteria, c.operator.isSome = true
  distinct : b.keys.Nodup

theorem new_canonical : new.Canonical where
  toSound := new_sound
  trimmed _ h := absurd h List.not_mem_nil
  joined _ h := absurd h List.not_mem_nil
  distinct := List.nodup_nil

variable {b : Builder}

theorem add_canonical (h : b.Canonical) (value : String) : (b.add value).1.Canonical := by
  have hsound := add_sound h.toSound value
  simp only [add] at hsound ⊢
  split at hsound
  · rename_i hskip
    rw [if_pos hskip]
    exact h
  · rename_i hnew
    rw [if_neg hnew]
    have hother : ∀ c ∈ b.criteria, c.field = b.field → c.value ≠ Text.trim value := by
      rw [Bool.or_eq_true, not_or] at hnew
      simpa using hnew.2
    refine ⟨hsound, fun c hc => ?_, fun c hc => ?_, ?_⟩
    · rcases List.mem_append.mp hc with hold | hadded
      · exact h.trimmed c hold
      · obtain rfl := List.mem_singleton.mp hadded
        exact Text.trim_trim value
    · rcases List.mem_append.mp hc with hold | hadded
      · exact h.joined c hold
      · obtain rfl := List.mem_singleton.mp hadded
        rfl
    · rw [keys, List.map_append, List.nodup_append]
      refine ⟨h.distinct, List.nodup_singleton _, fun key hkey key' hkey' heq => ?_⟩
      obtain ⟨c, hc, rfl⟩ := List.mem_map.mp hkey
      obtain rfl := List.mem_singleton.mp hkey'
      obtain ⟨hfield, hvalue⟩ := Prod.mk.inj heq
      exact hother c hc hfield hvalue

theorem keys_setOperator (b : Builder) (i : Nat) (op : Operator) :
    (b.setOperator i op).1.keys = b.keys := by
  unfold setOperator
  cases hi : b.criteria[i]? with
  | none => rfl
  | some c =>
    obtain ⟨hlt, rfl⟩ := List.getElem?_eq_some_iff.mp hi
    refine List.ext_getElem (by simp [keys]) fun j hj hj' => ?_
    simp only [keys, List.getElem_map, List.getElem_set]
    split
    · rename_i hij
      subst hij
      rfl
    · rfl

theorem setOperator_canonical (h : b.Canonical) (i : Nat) (op : Operator) :
    (b.setOperator i op).1.Canonical := by
  have hsound := setOperator_sound h.toSound i op
  have hkeys := b.keys_setOperator i op
  unfold setOperator at hsound hkeys ⊢
  cases hi : b.criteria[i]? with
  | none => exact h
  | some c =>
    rw [hi] at hsound hkeys
    refine ⟨hsound, fun c' hc' => ?_, fun c' hc' => ?_, hkeys ▸ h.distinct⟩
    · rcases List.mem_or_eq_of_mem_set hc' with hold | rfl
      · exact h.trimmed c' hold
      · exact h.trimmed c (List.mem_of_getElem? hi)
    · rcases List.mem_or_eq_of_mem_set hc' with hold | rfl
      · exact h.joined c' hold
      · rfl

theorem remove_canonical (h : b.Canonical) (i : Nat) : (b.remove i).1.Canonical := by
  have hsub : (b.remove i).1.criteria.Sublist b.criteria := List.eraseIdx_sublist b.criteria i
  exact ⟨act_sound h.toSound (.remove i), fun c hc => h.trimmed c (hsub.subset hc),
    fun c hc => h.joined c (hsub.subset hc), h.distinct.sublist (hsub.map _)⟩

theorem act_canonical (h : b.Canonical) (a : Action) : (b.act a).Canonical := by
  have hsound := act_sound h.toSound a
  cases a with
  | setDomain d => exact ⟨hsound, h.trimmed, h.joined, h.distinct⟩
  | setField token =>
    have hcriteria : (b.act (.setField token)).criteria = b.criteria := by
      simp only [act, setField]
      cases b.domain.field? token <;> rfl
    exact ⟨hsound, hcriteria ▸ h.trimmed, hcriteria ▸ h.joined, by
      rw [keys, hcriteria]; exact h.distinct⟩
  | setNextOperator op => exact ⟨hsound, h.trimmed, h.joined, h.distinct⟩
  | add value => exact add_canonical h value
  | remove i => exact remove_canonical h i
  | setOperator i op => exact setOperator_canonical h i op
  | clear =>
    exact ⟨hsound, fun _ hc => absurd hc List.not_mem_nil, fun _ hc => absurd hc List.not_mem_nil,
      List.nodup_nil⟩

theorem work_canonical (h : b.Canonical) (steps : List Step) : (b.work steps).Canonical := by
  induction steps generalizing b with
  | nil => exact h
  | cons s steps ih =>
    cases s with
    | operate a => exact ih (act_canonical h a)
    | save store now name => exact ih h

theorem Sound.query_eq_none_iff (h : b.Sound) : b.query = none ↔ b.criteria = [] := by
  constructor
  · intro hnone
    by_contra hne
    obtain ⟨c, hc⟩ := List.exists_mem_of_ne_nil b.criteria hne
    obtain ⟨written, hcompile⟩ := Query.exists_compile hc (h.criteria c hc).2
    rw [query, hcompile] at hnone
    cases hnone
  · intro hnil
    rw [query, hnil]
    rfl

theorem Sound.compileChecked_criteria (h : b.Sound) :
    Query.compileChecked none b.criteria = .ok b.query := by
  rw [Query.compileChecked, Query.canonical_of_registered h.criteria]
  rfl

theorem act_of_failed {a : Action} (h : (b.answer a).failed = true) : b.act a = b := by
  cases a with
  | setDomain | setNextOperator | clear => cases h
  | setField token =>
    simp only [answer] at h
    simp only [act]
    cases hset : b.setField token with
    | ok b' =>
      rw [hset] at h
      cases h
    | error e => rfl
  | add value =>
    simp only [answer, act, add] at h ⊢
    split at h
    · rw [if_pos ‹_›]
    · cases h
  | remove i =>
    have hlen : b.criteria.length ≤ i := by
      simpa [answer, remove, Answer.failed] using h
    simp only [act, remove, List.eraseIdx_of_length_le hlen]
  | setOperator i op =>
    simp only [answer, act, setOperator] at h ⊢
    cases hi : b.criteria[i]? with
    | none => rfl
    | some c =>
      rw [hi] at h
      cases h

/-- A builder that was operated and saved in any way has a field of its domain. Each criterion has
a field in the registered spelling, a trimmed value that is not blank, and an operator, and no two
criteria agree in field and value. There is no query exactly when there are no criteria, and the
check of the criteria lets them through with that query. An operation that fails, and a save in any
case, leaves the builder as it was. -/
theorem criteria_canonical (steps : List Step) :
    let b := new.work steps
    b.field ∈ b.domain.tokens ∧
    (∀ c ∈ b.criteria, c.field ∈ Query.registered ∧ Text.blank c.value = false ∧
      Text.trim c.value = c.value ∧ c.operator.isSome = true) ∧
    (b.criteria.map fun c => (c.field, c.value)).Nodup ∧
    (b.query = none ↔ b.criteria = []) ∧
    Query.compileChecked none b.criteria = .ok b.query ∧
    (∀ s, (b.step s).2.failed = true → (b.step s).1 = b) ∧
    ∀ store now name, (b.step (.save store now name)).1 = b := by
  intro b
  have h : b.Canonical := work_canonical new_canonical steps
  refine ⟨h.field, fun c hc => ?_, h.distinct, h.query_eq_none_iff, h.compileChecked_criteria, ?_,
    fun _ _ _ => rfl⟩
  · obtain ⟨hfield, hblank⟩ := h.criteria c hc
    exact ⟨hfield, hblank, h.trimmed c hc, h.joined c hc⟩
  · intro s hs
    cases s with
    | operate a => exact act_of_failed hs
    | save store now name => rfl

theorem criteria_canonical_of_two_domains :
    let steps : List Step := [.operate (.setField "ISNEW"), .operate (.add " Yes "),
      .operate (.add "Yes"), .operate (.setDomain .channel), .operate (.setNextOperator .or),
      .operate (.add "C: \"1\""), .save {} ⟨0, 0⟩ " "]
    let b := new.work steps
    let foreign := Step.operate (.setField "geography")
    b.criteria = [⟨"isnew", "Yes", some .and⟩, ⟨"channelid", "C: \"1\"", some .or⟩] ∧
    (b.step foreign).2.failed = true ∧ (b.step foreign).1 = b ∧
    Query.compileChecked none b.criteria =
      .ok (some "isnew:*Yes* OR channelid:\"*C: \\\"1\\\"*\"") := by
  intro steps b foreign
  obtain ⟨-, -, -, -, hchecked, hfailed, -⟩ := criteria_canonical steps
  have hrefused : (b.step foreign).2.failed = true := by decide
  exact ⟨by decide, hrefused, hfailed foreign hrefused, hchecked.trans (by decide)⟩

end Builder

end PlanningSearch
