import PlanningSearch.Builder
import PlanningSearch.Proofs.Query.Applicability

/-!
Authoring of searches. However a builder is operated, its field is one of its domain, and its
criteria have registered fields and values that are not blank. So a builder with criteria has a
query, which applies to the domain of each of its fields, and saving puts that query at the end of
the store.
-/

namespace PlanningSearch

theorem SavedSearches.saved_of_create {store : SavedSearches} {now : Instant} {name query : String}
    {r : SavedSearches × SavedSearch} (h : store.create now name query = .ok r) :
    r.1.saved = store.saved ++ [r.2] := by
  unfold create failing at h
  split at h <;> cases h
  rfl

namespace Builder

inductive Action where
  | setDomain (d : Domain)
  | setField (token : String)
  | setNextOperator (op : Operator)
  | add (value : String)
  | remove (i : Nat)
  | setOperator (i : Nat) (op : Operator)
  | clear
  deriving DecidableEq, Repr

def act (b : Builder) : Action → Builder
  | .setDomain d => b.setDomain d
  | .setField token => (b.setField token).toOption.getD b
  | .setNextOperator op => b.setNextOperator op
  | .add value => (b.add value).1
  | .remove i => (b.remove i).1
  | .setOperator i op => (b.setOperator i op).1
  | .clear => b.clear

def run (b : Builder) (actions : List Action) : Builder := actions.foldl act b

structure Sound (b : Builder) : Prop where
  field : b.field ∈ b.domain.tokens
  criteria : ∀ c ∈ b.criteria, c.field ∈ Query.registered ∧ c.blank = false

theorem new_sound : new.Sound := ⟨by decide, fun _ h => absurd h List.not_mem_nil⟩

variable {b : Builder}

theorem setDomain_sound (h : b.Sound) (d : Domain) : (b.setDomain d).Sound := by
  have hfirst : (d.tokens.head?).getD "" ∈ d.tokens := by cases d <;> decide
  exact ⟨hfirst, h.criteria⟩

theorem setField_sound (h : b.Sound) {b' : Builder} {token : String}
    (hset : b.setField token = .ok b') : b'.Sound := by
  unfold setField at hset
  split at hset
  · rename_i f hf
    cases hset
    exact ⟨(Domain.token_of_field? hf).1, h.criteria⟩
  · cases hset

theorem add_sound (h : b.Sound) (value : String) : (b.add value).1.Sound := by
  simp only [add]
  split
  · exact h
  · rename_i hnew
    have hvalue : Text.blank value = false := by
      rw [Bool.or_eq_true, not_or, Text.isEmpty_trim] at hnew
      exact Bool.eq_false_iff.mpr hnew.1
    refine ⟨h.field, fun c hc => ?_⟩
    rcases List.mem_append.mp hc with hold | hadded
    · exact h.criteria c hold
    · obtain rfl := List.mem_singleton.mp hadded
      exact ⟨Query.mem_registered h.field, (Text.blank_trim value).trans hvalue⟩

theorem setOperator_sound (h : b.Sound) (i : Nat) (op : Operator) :
    (b.setOperator i op).1.Sound := by
  unfold setOperator
  cases hi : b.criteria[i]? with
  | none => exact h
  | some c =>
    refine ⟨h.field, fun c' hc' => ?_⟩
    rcases List.mem_or_eq_of_mem_set hc' with hold | rfl
    · exact h.criteria c' hold
    · exact h.criteria c (List.mem_of_getElem? hi)

theorem act_sound (h : b.Sound) (a : Action) : (b.act a).Sound := by
  cases a with
  | setDomain d => exact setDomain_sound h d
  | setField token =>
    simp only [act]
    cases hset : b.setField token with
    | error e => exact h
    | ok b' => exact setField_sound h hset
  | setNextOperator op => exact ⟨h.field, h.criteria⟩
  | add value => exact add_sound h value
  | remove i => exact ⟨h.field, fun c hc => h.criteria c (List.mem_of_mem_eraseIdx hc)⟩
  | setOperator i op => exact setOperator_sound h i op
  | clear => exact ⟨h.field, fun _ hc => absurd hc List.not_mem_nil⟩

theorem run_sound (h : b.Sound) (actions : List Action) : (b.run actions).Sound := by
  induction actions generalizing b with
  | nil => exact h
  | cons a actions ih => exact ih (act_sound h a)

theorem Sound.exists_query (h : b.Sound) {d : Domain} (hd : ∃ c ∈ b.criteria, c.field ∈ d.tokens) :
    ∃ query, b.query = some query ∧ d.appliesTo query = true := by
  obtain ⟨c, hc, hfield⟩ := hd
  have hblank := (h.criteria c hc).2
  obtain ⟨query, hquery⟩ := Query.exists_compile hc hblank
  exact ⟨query, hquery, Query.appliesTo_compile hquery hc hblank hfield⟩

variable {store : SavedSearches} {now : Instant} {name : String}

theorem save_of_query {query : String} (hquery : b.query = some query)
    (hname : Text.blank name = false) (hstore : store.failure = none) :
    b.save store now name = .ok (store.add now (Text.trim name) query) := by
  simp only [save, Text.isEmpty_trim, hname, hquery, SavedSearches.create, hstore, failing]
  rfl

theorem saved_of_save {r : SavedSearches × SavedSearch} (h : b.save store now name = .ok r) :
    r.1.saved = store.saved ++ [r.2] := by
  simp only [save] at h
  split at h
  · cases h
  · split at h
    · cases h
    · exact SavedSearches.saved_of_create h

end Builder

end PlanningSearch
