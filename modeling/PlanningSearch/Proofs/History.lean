import Mathlib.Data.List.Basic
import Mathlib.Data.List.Induction

/-!
Histories. A state is reached by a list of steps, and a list that grew at its end splits at an old
step or at the new one. What some steps start and others end holds of the state reached exactly if
the history has a step that starts it and none behind it that ends it.
-/

namespace PlanningSearch

section Histories

variable {α σ : Type} {xs : List α} {x : α}

theorem split_concat {mid rest : List α} {y : α} (h : xs ++ [x] = mid ++ y :: rest) :
    mid = xs ∧ y = x ∨ ∃ rest', xs = mid ++ y :: rest' := by
  rcases List.eq_nil_or_concat' rest with rfl | ⟨rest, last, rfl⟩
  · obtain ⟨rfl, hlast⟩ := List.append_inj' h rfl
    exact .inl ⟨rfl, (List.singleton_inj.mp hlast).symm⟩
  · rw [← List.cons_append, ← List.append_assoc] at h
    exact .inr ⟨rest, (List.append_inj' h rfl).1⟩

theorem forall_split_concat {Q : List α → α → Prop} :
    (∀ mid y rest, xs ++ [x] = mid ++ y :: rest → Q mid y) ↔
      (∀ mid y rest, xs = mid ++ y :: rest → Q mid y) ∧ Q xs x := by
  refine ⟨fun h => ⟨fun mid y rest hsplit => ?_, h xs x [] rfl⟩, ?_⟩
  · exact h mid y (rest ++ [x]) (by rw [hsplit, List.append_assoc, List.cons_append])
  · rintro ⟨hall, hlast⟩ mid y rest hsplit
    rcases split_concat hsplit with ⟨rfl, rfl⟩ | ⟨rest', hsplit'⟩
    · exact hlast
    · exact hall mid y rest' hsplit'

theorem exists_since_concat (starts ends : List α → α → Prop) :
    (∃ before y after, xs ++ [x] = before ++ y :: after ∧ starts before y ∧
      ∀ mid z rest, after = mid ++ z :: rest → ¬ ends (before ++ y :: mid) z) ↔
    starts xs x ∨ (∃ before y after, xs = before ++ y :: after ∧ starts before y ∧
      ∀ mid z rest, after = mid ++ z :: rest → ¬ ends (before ++ y :: mid) z) ∧ ¬ ends xs x := by
  constructor
  · rintro ⟨before, y, after, hsplit, hstarts, hends⟩
    rcases split_concat hsplit with ⟨rfl, rfl⟩ | ⟨rest, rfl⟩
    · exact .inl hstarts
    · obtain rfl : rest ++ [x] = after := by simpa using hsplit
      obtain ⟨hrest, hx⟩ := forall_split_concat.mp hends
      exact .inr ⟨⟨before, y, rest, rfl, hstarts, hrest⟩, hx⟩
  · rintro (hstarts | ⟨⟨before, y, after, rfl, hstarts, hends⟩, hx⟩)
    · exact ⟨xs, x, [], rfl, hstarts, fun mid z rest h => by simp at h⟩
    · exact ⟨before, y, after ++ [x], List.append_assoc .., hstarts,
        forall_split_concat.mpr ⟨hends, hx⟩⟩

variable {step : σ → α → σ} {Inv P : σ → Prop} {s₀ : σ}

/-- A property that a step starts, or keeps unless it ends it. -/
theorem foldl_iff_exists_since {Starts Ends : σ → α → Prop}
    (hinv : ∀ s a, Inv s → Inv (step s a))
    (hstep : ∀ s a, Inv s → (P (step s a) ↔ Starts s a ∨ P s ∧ ¬ Ends s a))
    (h₀ : Inv s₀) (hnot : ¬ P s₀) (xs : List α) :
    P (xs.foldl step s₀) ↔
      ∃ before x after, xs = before ++ x :: after ∧ Starts (before.foldl step s₀) x ∧
        ∀ mid y rest, after = mid ++ y :: rest → ¬ Ends ((before ++ x :: mid).foldl step s₀) y := by
  have hall (ys : List α) : Inv (ys.foldl step s₀) := by
    induction ys using List.reverseRecOn with
    | nil => exact h₀
    | append_singleton ys y ih =>
      rw [List.foldl_append]
      exact hinv _ y ih
  induction xs using List.reverseRecOn with
  | nil => simp [hnot]
  | append_singleton xs x ih =>
    have hconcat := @exists_since_concat _ xs x
      (fun before y => Starts (before.foldl step s₀) y)
      (fun before y => Ends (before.foldl step s₀) y)
    rw [List.foldl_append]
    exact ((hstep _ x (hall xs)).trans (or_congr_right (and_congr_left' ih))).trans hconcat.symm

theorem foldl_iff_exists_split {Brings : σ → α → Prop} (hinv : ∀ s a, Inv s → Inv (step s a))
    (hstep : ∀ s a, Inv s → (P (step s a) ↔ P s ∨ Brings s a))
    (h₀ : Inv s₀) (hnot : ¬ P s₀) (xs : List α) :
    P (xs.foldl step s₀) ↔
      ∃ before x after, xs = before ++ x :: after ∧ Brings (before.foldl step s₀) x := by
  have hsince (s : σ) (a : α) (hs : Inv s) :
      P (step s a) ↔ Brings s a ∨ P s ∧ ¬ (fun (_ : σ) (_ : α) => False) s a := by
    rw [hstep s a hs, not_false_iff, and_true, or_comm]
  rw [foldl_iff_exists_since hinv hsince h₀ hnot xs]
  simp only [not_false_iff, implies_true, and_true]

end Histories

end PlanningSearch
