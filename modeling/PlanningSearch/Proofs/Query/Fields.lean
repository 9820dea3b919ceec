import PlanningSearch.Proofs.Query.NormalForm
import PlanningSearch.Proofs.Text.Casing

/-!
The fields that a query may name. A field spells a token when they agree up to the case of A to Z.
No two tokens are spelled alike, and the two look-ups of a field, in one domain or in the first
domain that registers it, both find the token that it spells.
-/

namespace PlanningSearch

open Text

namespace Query

theorem mem_registered {d : Domain} {token : String} (h : token ∈ d.tokens) : token ∈ registered :=
  List.mem_flatMap.mpr ⟨d, by cases d <;> decide, h⟩

theorem letters_of_registered : ∀ token ∈ registered,
    ' ' ∉ token.toList ∧ token.toList.map asciiLower = token.toList := by
  decide

theorem eq_of_sameUpToCase {a b : String} (ha : a ∈ registered) (hb : b ∈ registered)
    (h : sameUpToCase a b = true) : a = b := by
  rw [sameUpToCase, beq_iff_eq, (letters_of_registered a ha).2,
    (letters_of_registered b hb).2] at h
  exact String.toList_inj.mp h

theorem eq_of_spells {token other field : String} (ht : token ∈ registered)
    (ho : other ∈ registered) (htf : sameUpToCase token field = true)
    (hof : sameUpToCase other field = true) : token = other :=
  eq_of_sameUpToCase ht ho (sameUpToCase_trans htf (sameUpToCase_symm hof))

end Query

theorem Domain.token_of_field? {d : Domain} {name : String} {f : Field}
    (h : d.field? name = some f) : f.token ∈ d.tokens ∧ sameUpToCase f.token name = true := by
  unfold field? at h
  have hsame := List.find?_some h
  exact ⟨List.mem_map_of_mem (List.mem_of_find?_eq_some h), hsame⟩

namespace Query

def permitted : Option Domain → List String
  | some d => d.tokens
  | none => registered

def refusal : Option Domain → String → SearchError
  | some d, field => .unknownField d field
  | none, field => .validation ("Unknown search field '" ++ field ++ "'.")

theorem findSome?_eq_bind_find? {α β : Type} (f : α → Option β) (l : List α) :
    l.findSome? f = (l.find? fun a => (f a).isSome).bind f := by
  induction l with
  | nil => rfl
  | cons a l ih =>
    rw [List.findSome?_cons, List.find?_cons, ih]
    cases h : f a with
    | none => rfl
    | some b => exact h.symm

theorem field?_token (d : Domain) (field : String) :
    (d.field? field).map Field.token = d.tokens.find? fun token => sameUpToCase token field := by
  rw [Domain.tokens, List.find?_map]
  rfl

/-- The domain that registers a field finds it, so both look-ups are one search of the tokens. -/
theorem canonicalField_eq (domain : Option Domain) (field : String) :
    canonicalField domain field =
      match (permitted domain).find? fun token => sameUpToCase token field with
      | some token => .ok token
      | none => .error (refusal domain field) := by
  cases domain with
  | some d =>
    rw [permitted, ← field?_token, canonicalField]
    cases d.field? field <;> rfl
  | none =>
    have howning : ((Domain.owning? field).bind fun d => d.field? field).map Field.token =
        registered.find? fun token => sameUpToCase token field := by
      -- a domain registers the field exactly when the search of its own tokens succeeds
      have hfound (d : Domain) : (d.tokens.any fun token => sameUpToCase token field) =
          (d.tokens.find? fun token => sameUpToCase token field).isSome := by
        rw [Bool.eq_iff_iff, List.any_eq_true, List.find?_isSome]
      rw [Option.map_bind, registered, List.find?_flatMap, findSome?_eq_bind_find?]
      simp only [Domain.owning?, hfound]
      exact Option.bind_congr fun d _ => field?_token d field
    rw [permitted, ← howning, canonicalField]
    cases (Domain.owning? field).bind fun d => d.field? field <;> rfl

theorem registered_of_permitted {domain : Option Domain} {token : String}
    (h : token ∈ permitted domain) : token ∈ registered := by
  cases domain with
  | some d => exact mem_registered h
  | none => exact h

variable {domain : Option Domain} {field token : String}

theorem spells_of_find?
    (h : (permitted domain).find? (fun t => sameUpToCase t field) = some token) :
    token ∈ permitted domain ∧ sameUpToCase token field = true := by
  have hsame := List.find?_some h
  exact ⟨List.mem_of_find?_eq_some h, hsame⟩

theorem canonicalField_eq_ok_iff :
    canonicalField domain field = .ok token ↔
      token ∈ permitted domain ∧ sameUpToCase token field = true := by
  rw [canonicalField_eq]
  constructor
  · intro h
    split at h
    · rename_i hfound
      cases h
      exact spells_of_find? hfound
    · cases h
  · rintro ⟨hmem, hsame⟩
    split
    · rename_i other hfound
      obtain ⟨hother, hsame'⟩ := spells_of_find? hfound
      rw [eq_of_spells (registered_of_permitted hother) (registered_of_permitted hmem) hsame' hsame]
    · rename_i hnone
      exact absurd hsame (List.find?_eq_none.mp hnone token hmem)

theorem canonicalField_eq_error
    (h : ∀ token ∈ permitted domain, sameUpToCase token field = false) :
    canonicalField domain field = .error (refusal domain field) := by
  have hnone : ((permitted domain).find? fun token => sameUpToCase token field) = none := by
    refine List.find?_eq_none.mpr fun token hmem => ?_
    rw [h token hmem]
    exact Bool.false_ne_true
  rw [canonicalField_eq, hnone]

end Query

end PlanningSearch
