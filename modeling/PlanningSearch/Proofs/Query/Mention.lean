import PlanningSearch.Proofs.Query.Applicability

/-!
Where a query names a domain. A domain applies to a query when a token of its own stands before a
colon in the query, lowered by the full Unicode mapping. Positions in the lowered text are not those
of the query, for the mapping makes texts longer and depends on what stands around a letter. Still
the tokens are found where they stand in the query itself, letter by letter up to the case of A to
Z, and lowering these letters alone finds the same tokens.
-/

namespace PlanningSearch

namespace Text

/-- From position `i` on the text has the letters of the name, up to the case of A to Z, and a colon
right behind them. -/
structure NamedAt (name cs : List Char) (i : Nat) : Prop where
  letters : ∀ j (h : j < name.length),
    ∃ c, cs[i + j]? = some c ∧ asciiLower c = asciiLower name[j]
  colon : cs[i + name.length]? = some ':'

variable {name cs : List Char}

theorem namedAt_length (a u b : List Char) (h : u.map asciiLower = name.map asciiLower) :
    NamedAt name (a ++ u ++ ':' :: b) a.length := by
  have hlength : u.length = name.length := by simpa using congrArg List.length h
  refine ⟨fun j hj => ?_, ?_⟩
  · have hu : j < u.length := hlength ▸ hj
    refine ⟨u[j], ?_, ?_⟩
    · rw [List.append_assoc, List.getElem?_append_right (Nat.le_add_right _ _),
        Nat.add_sub_cancel_left, List.getElem?_append_left hu, List.getElem?_eq_getElem hu]
    · have hj' : j < (u.map asciiLower).length := by simpa using hu
      have hmapped := List.getElem_of_eq h hj'
      rwa [List.getElem_map, List.getElem_map] at hmapped
  · rw [← hlength, ← List.length_append, List.getElem?_append_right (Nat.le_refl _), Nat.sub_self]
    rfl

theorem NamedAt.split {i : Nat} (h : NamedAt name cs i) :
    ∃ a u b, cs = a ++ u ++ ':' :: b ∧ u.map asciiLower = name.map asciiLower := by
  obtain ⟨hend, hcolon⟩ := List.getElem?_eq_some_iff.mp h.colon
  refine ⟨cs.take i, (cs.drop i).take name.length, cs.drop (i + name.length + 1), ?_, ?_⟩
  · rw [← hcolon, ← List.drop_eq_getElem_cons hend, ← List.take_add, List.take_append_drop]
  · refine List.ext_getElem (by simp; omega) fun j hj hname => ?_
    rw [List.length_map] at hname
    obtain ⟨c, hc, hsame⟩ := h.letters j hname
    obtain ⟨_, rfl⟩ := List.getElem?_eq_some_iff.mp hc
    simpa using hsame

theorem exists_namedAt_iff :
    (∃ i, NamedAt name cs i) ↔
      ∃ a u b, cs = a ++ u ++ ':' :: b ∧ u.map asciiLower = name.map asciiLower := by
  constructor
  · rintro ⟨i, h⟩
    exact h.split
  · rintro ⟨a, u, b, rfl, h⟩
    exact ⟨a.length, namedAt_length a u b h⟩

theorem occursIn_map_asciiLower_iff :
    occursIn (name ++ [':']) (cs.map asciiLower) = true ↔
      ∃ a u b, cs = a ++ u ++ ':' :: b ∧ u.map asciiLower = name := by
  rw [occursIn_iff]
  constructor
  · rintro ⟨front, rest, heq⟩
    rw [← List.append_assoc, List.append_assoc, eq_comm, List.map_eq_append_iff] at heq
    obtain ⟨before, behind, rfl, hbefore, hbehind⟩ := heq
    obtain ⟨a, u, rfl, -, hu⟩ := List.map_eq_append_iff.mp hbefore
    obtain ⟨c, b, rfl, hc, -⟩ := List.map_eq_cons_iff.mp hbehind
    obtain rfl := eq_of_asciiLower (by decide) hc
    exact ⟨a, u, b, rfl, hu⟩
  · rintro ⟨a, u, b, rfl, rfl⟩
    have hcolon : asciiLower ':' = ':' := by decide
    exact ⟨a.map asciiLower, b.map asciiLower, by simp [hcolon]⟩

end Text

namespace Domain

/-- A domain applies to a query exactly when one of its tokens stands in the query itself, letter by
letter up to the case of A to Z, with a colon right behind it. So the case of no other letter
matters: lowering the letters A to Z alone gives the same answer. -/
theorem applies_where_named (d : Domain) (query : String) :
    (d.appliesTo query = true ↔
      ∃ token ∈ d.tokens, ∃ i, Text.NamedAt token.toList query.toList i) ∧
    d.appliesTo query = d.tokens.any fun token =>
      Text.occursIn (token.toList ++ [':']) (query.toList.map Text.asciiLower) := by
  have hsmall {token : String} (h : token ∈ d.tokens) :
      token.toList.map Text.asciiLower = token.toList :=
    (Query.letters_of_registered token (Query.mem_registered h)).2
  constructor
  · rw [appliesTo_iff]
    refine exists_congr fun token => and_congr_right fun hmem => ?_
    rw [Text.exists_namedAt_iff, hsmall hmem]
  · rw [Bool.eq_iff_iff, appliesTo_iff, List.any_eq_true]
    exact exists_congr fun token => and_congr_right fun _ => Text.occursIn_map_asciiLower_iff.symm

example : product.appliesTo "\u0130SNEW:*" = false ∧ product.appliesTo "\u0130ISNEW:*" = true := by
  decide

end Domain

end PlanningSearch
