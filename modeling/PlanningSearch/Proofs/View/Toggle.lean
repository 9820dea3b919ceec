import PlanningSearch.Proofs.View.Layers
import PlanningSearch.Text.Collation

/-!
Choosing the same column again and again. Each time the direction turns and the rows shown are
sorted anew; a sort by one column leaves no trace of earlier sorts by it, so after any number of
times the rows are those before the first time, sorted once. The two directions take turns: rows
that the collation tells apart change places, and rows that it does not never move past each other.
-/

namespace PlanningSearch

variable {t : Table}

namespace SortOrder

def reverse (o : SortOrder t) : SortOrder t := { o with descending := !o.descending }

@[simp]
theorem reverse_reverse (o : SortOrder t) : o.reverse.reverse = o := by
  simp [reverse]

@[simp]
theorem choose_column (order : Option (SortOrder t)) (c : Column t) :
    (choose order c).column = c := by
  unfold choose
  split
  · split <;> rfl
  · rfl

theorem choose_again (o : SortOrder t) : choose (some o) o.column = o.reverse := by
  simp [choose, reverse]

variable [Text.Order]

theorem compare_reverse (o : SortOrder t) (a b : Row t) :
    o.reverse.compare a b = o.compare b a := by
  unfold compare
  rw [Text.collate_swap (b.text o.column)]
  cases h : o.descending <;> simp [reverse, h]

theorem sort_sort {o o' : SortOrder t} (h : o'.column = o.column) (rows : List (Row t)) :
    sort (some o') (sort (some o) rows) = sort (some o') rows := by
  have hcolumn : OneColumn [o', o] := by simp [OneColumn, h]
  have htwice : SortedBy [o', o] rows (sort (some o') (sort (some o) rows)) :=
    (SortedBy.sort_anew (some o) rows).sort o'
  exact (htwice.of_oneColumn hcolumn).unique (.sort_anew (some o') rows)

theorem pair_sublist_sort_iff {o : SortOrder t} {a b : Row t} (hne : o.compare a b ≠ .eq)
    {rows : List (Row t)} :
    [a, b].Sublist (sort (some o) rows) ↔ a ∈ rows ∧ b ∈ rows ∧ o.compare a b = .lt := by
  have hmem (r : Row t) : r ∈ sort (some o) rows ↔ r ∈ rows := (sort_perm (some o) rows).mem_iff
  have hsorted := o.sort_pairwise rows
  constructor
  · intro hsub
    have hle := List.pairwise_pair.mp (hsorted.sublist hsub)
    refine ⟨(hmem a).mp (hsub.subset (by simp)), (hmem b).mp (hsub.subset (by simp)), ?_⟩
    cases h : o.compare a b <;> simp_all
  · rintro ⟨ha, hb, hlt⟩
    obtain ⟨before, after, hsplit⟩ := List.append_of_mem ((hmem a).mpr ha)
    have hplace := (hmem b).mpr hb
    rw [hsplit] at hplace hsorted ⊢
    rcases List.mem_append.mp hplace with hbefore | hafter
    · -- the greater row would stand in front of the lesser one
      have hle := (List.pairwise_append.mp hsorted).2.2 b hbefore a (by simp)
      rw [o.compare_swap, hlt] at hle
      exact absurd rfl hle
    · rcases List.mem_cons.mp hafter with rfl | hafter
      · exact absurd (o.compare_self b) hne
      · have hpair := (List.singleton_sublist.mpr hafter).cons_cons a
        exact hpair.trans (List.sublist_append_right _ _)

theorem pair_sublist_sort_reverse {o : SortOrder t} {a b : Row t} (hne : o.compare a b ≠ .eq)
    (rows : List (Row t)) :
    [a, b].Sublist (sort (some o.reverse) rows) ↔ [b, a].Sublist (sort (some o) rows) := by
  have hne' : o.compare b a ≠ .eq := by
    rw [o.compare_swap]
    simpa using hne
  rw [pair_sublist_sort_iff (by rwa [compare_reverse]), pair_sublist_sort_iff hne',
    compare_reverse]
  exact and_left_comm

end SortOrder

namespace View

def orderAfter (v : View t) (c : Column t) (n : ℕ) : SortOrder t :=
  SortOrder.reverse^[n] (SortOrder.choose v.order c)

variable {v : View t} {name : String} {c : Column t}

theorem orderAfter_succ (v : View t) (c : Column t) (n : ℕ) :
    v.orderAfter c (n + 1) = (v.orderAfter c n).reverse :=
  Function.iterate_succ_apply' ..

@[simp]
theorem orderAfter_column (v : View t) (c : Column t) (n : ℕ) : (v.orderAfter c n).column = c := by
  induction n with
  | zero => exact SortOrder.choose_column v.order c
  | succ n ih => rw [orderAfter_succ, SortOrder.reverse, ih]

section

variable [Text.Order]

def toggled (v : View t) (name : String) (n : ℕ) : View t := v.run (List.replicate n (.sortBy name))

theorem toggled_succ (v : View t) (name : String) (n : ℕ) :
    v.toggled name (n + 1) = ((v.toggled name n).sortBy name).1 := by
  simp [toggled, run, act, List.replicate_succ']

theorem sortBy_of_resolve (hc : t.resolve? name = some c) :
    v.sortBy name = ({ v with
      order := some (SortOrder.choose v.order c)
      shown := SortOrder.sort (some (SortOrder.choose v.order c)) v.shown }, true) := by
  simp only [sortBy, hc]

theorem toggled_eq (hc : t.resolve? name = some c) (n : ℕ) :
    v.toggled name (n + 1) = { v with
      order := some (v.orderAfter c n)
      shown := SortOrder.sort (some (v.orderAfter c n)) v.shown } := by
  induction n with
  | zero => rw [toggled_succ, sortBy_of_resolve hc]; rfl
  | succ n ih =>
    have hagain : SortOrder.choose (some (v.orderAfter c n)) c = v.orderAfter c (n + 1) := by
      rw [orderAfter_succ, ← SortOrder.choose_again, orderAfter_column]
    rw [toggled_succ, sortBy_of_resolve hc, ih]
    simp only [hagain]
    rw [SortOrder.sort_sort (by simp)]

theorem shown_toggled (hc : t.resolve? name = some c) (n : ℕ) :
    (v.toggled name (n + 1)).shown = SortOrder.sort (some (v.orderAfter c n)) v.shown := by
  rw [toggled_eq hc]

theorem filter_shown_toggled (hc : t.resolve? name = some c) (r : Row t) (n : ℕ) :
    (v.toggled name n).shown.filter (fun a => Text.collate (r.text c) (a.text c) == .eq) =
      v.shown.filter fun a => Text.collate (r.text c) (a.text c) == .eq := by
  cases n with
  | zero => rfl
  | succ n =>
    have hties : (v.orderAfter c n).ties r =
        fun a => Text.collate (r.text c) (a.text c) == .eq := by
      funext a
      rw [SortOrder.ties, Bool.eq_iff_iff, beq_iff_eq, beq_iff_eq,
        SortOrder.compare_eq_iff_collate, orderAfter_column]
    rw [shown_toggled hc, ← hties, SortOrder.filter_ties_sort]

/-- Choosing a column over and over: the rows come back every second time; rows whose texts differ
under the collation change places each time; rows with equal texts stay in the order in which they
stood; all rows, the filters, the page and the page size stay. A name that is no column is refused
and changes nothing. The states after one, two and three times are those for `n = 0`. -/
theorem toggle_reversible (v : View t) (name : String) :
    (t.resolve? name = none → v.sortBy name = (v, false)) ∧
    ∀ c, t.resolve? name = some c → ∀ n,
      ((v.toggled name n).sortBy name).2 = true ∧
      (v.toggled name (n + 3)).shown = (v.toggled name (n + 1)).shown ∧
      (∀ a b, Text.collate (a.text c) (b.text c) ≠ .eq →
        ([a, b].Sublist (v.toggled name (n + 2)).shown ↔
          [b, a].Sublist (v.toggled name (n + 1)).shown)) ∧
      (∀ r : Row t,
        (v.toggled name n).shown.filter (fun a => Text.collate (r.text c) (a.text c) == .eq) =
          v.shown.filter fun a => Text.collate (r.text c) (a.text c) == .eq) ∧
      (v.toggled name n).all = v.all ∧ (v.toggled name n).filters = v.filters ∧
      (v.toggled name n).page = v.page ∧ (v.toggled name n).perPage = v.perPage := by
  refine ⟨fun hnone => by simp only [sortBy, hnone], fun c hc n => ?_⟩
  refine ⟨by rw [sortBy_of_resolve hc], ?_, fun a b hne => ?_, fun r => ?_, ?_⟩
  · rw [shown_toggled hc, shown_toggled hc, orderAfter_succ, orderAfter_succ,
      SortOrder.reverse_reverse]
  · rw [shown_toggled hc, shown_toggled hc, orderAfter_succ]
    refine SortOrder.pair_sublist_sort_reverse (fun heq => hne ?_) v.shown
    rwa [SortOrder.compare_eq_iff_collate, orderAfter_column] at heq
  · exact filter_shown_toggled hc r n
  · cases n with
    | zero => exact ⟨rfl, rfl, rfl, rfl⟩
    | succ n => rw [toggled_eq hc]; exact ⟨rfl, rfl, rfl, rfl⟩

end

theorem toggle_reversible_of_levels :
    let row (id level : String) : Row .channel := ⟨#v[id, "", level]⟩
    let rows := [row "C1" "Store", row "C2" "Region", row "C3" "store"]
    let v : View .channel := (start 2).run [.load rows (by decide), .goTo 2]
    let ties (a : Row .channel) : Bool := Text.collate "Store" (a.text ⟨2, by decide⟩) == .eq
    Table.channel.resolve? "Colour" = none ∧ v.sortBy "Colour" = (v, false) ∧
    Table.channel.resolve? " LEVEL" = some ⟨2, by decide⟩ ∧
    (v.toggled " LEVEL" 3).shown = (v.toggled " LEVEL" 1).shown ∧
    Text.collate "Store" "Region" ≠ .eq ∧
    ([row "C1" "Store", row "C2" "Region"].Sublist (v.toggled " LEVEL" 2).shown ↔
      [row "C2" "Region", row "C1" "Store"].Sublist (v.toggled " LEVEL" 1).shown) ∧
    (v.toggled " LEVEL" 2).shown.filter ties = [row "C1" "Store", row "C3" "store"] ∧
    (v.toggled " LEVEL" 2).page = 2 := by
  intro row rows v ties
  have hrefused := (toggle_reversible v "Colour").1 (by decide)
  have hlevel : Table.channel.resolve? " LEVEL" = some ⟨2, by decide⟩ := by decide
  have hchosen := (toggle_reversible v " LEVEL").2 _ hlevel
  have hne : Text.collate "Store" "Region" ≠ .eq := by decide +kernel
  have hties : v.shown.filter ties = [row "C1" "Store", row "C3" "store"] := by decide +kernel
  exact ⟨by decide, hrefused, hlevel, (hchosen 0).2.1, hne,
    (hchosen 0).2.2.1 _ _ hne, ((hchosen 2).2.2.2.1 (row "C1" "Store")).trans hties,
    (hchosen 2).2.2.2.2.2.2.1.trans (by decide)⟩

end View

end PlanningSearch
