import PlanningSearch.Proofs.Text.Distinct
import PlanningSearch.Proofs.View.Conjunction
import PlanningSearch.Text.Collation

/-!
Choosing one of the values that a column offers. The values offered are the texts of the rows as
they are; the value chosen loses the blanks at its ends before the rows are compared with it. So a
value finds the rows it was read from as long as it has no blanks at its ends, and another value
finds the rows of a different one, or none.
-/

namespace PlanningSearch

variable {t : Table}

namespace View

variable (v : View t)

def rowsWith (c : Column t) (text : String) : List (Row t) := v.all.filter fun r => r.text c == text

variable {v}

theorem mem_rowsWith {c : Column t} {text : String} {r : Row t} :
    r ∈ v.rowsWith c text ↔ r ∈ v.all ∧ r.text c = text := by
  rw [rowsWith, List.mem_filter, beq_iff_eq]

theorem rowsWith_ne_nil_iff {c : Column t} {text : String} :
    v.rowsWith c text ≠ [] ↔ ∃ r ∈ v.all, r.text c = text := by
  simp [rowsWith]

variable [Text.Order] in
theorem mem_distinctValues {name value : String} :
    value ∈ v.distinctValues name ↔
      ∃ c, t.resolve? name = some c ∧ v.rowsWith c value ≠ [] ∧ Text.blank value = false := by
  unfold distinctValues
  cases t.resolve? name with
  | none => simp
  | some c =>
    simp only [Text.mem_sortedDistinct, List.mem_map, Option.some.injEq, exists_eq_left',
      rowsWith_ne_nil_iff]

theorem rowsWith_perm_iff {c : Column t} {text text' : String} (h : v.rowsWith c text' ≠ []) :
    (v.rowsWith c text).Perm (v.rowsWith c text') ↔ text = text' := by
  refine ⟨fun hperm => ?_, fun heq => heq ▸ .refl _⟩
  obtain ⟨r, hr⟩ := List.exists_mem_of_ne_nil _ h
  exact (mem_rowsWith.mp (hperm.mem_iff.mpr hr)).2.symm.trans (mem_rowsWith.mp hr).2

section

variable [Text.Order]

theorem filterExactly_single {name value : String} {c : Column t} (hc : t.resolve? name = some c)
    (hvalue : Text.blank value = false) :
    v.filterExactly [(name, value)] = v.setFilters [⟨some c, Text.trim value, .exact⟩] :=
  filterBy_single hc hvalue v .exact

theorem shown_setFilters_exact (c : Column t) (needle : String) :
    (v.setFilters [⟨some c, needle, .exact⟩]).shown =
      SortOrder.sort v.order (v.rowsWith c needle) := by
  have hpasses : passes [(⟨some c, needle, .exact⟩ : Filter t)] = fun r => r.text c == needle := by
    funext r
    simp [passes, Filter.keeps]
  rw [setFilters, refresh, hpasses, rowsWith]

/-- A value that a column offers is the text of some row. Choosing it leaves the other rows in place
and shows, in the active order, the rows whose text is the value without the blanks at its ends.
These are the rows with the value as their text, and then at least one, exactly when there are no
such blanks; otherwise there may be none, unless the text without them is offered as well. -/
theorem choice_shows_its_rows_iff {name value : String} (h : value ∈ v.distinctValues name) :
    ∃ c, t.resolve? name = some c ∧ v.rowsWith c value ≠ [] ∧
      let chosen := v.filterExactly [(name, value)]
      chosen.all = v.all ∧
      chosen.shown = SortOrder.sort v.order (v.rowsWith c (Text.trim value)) ∧
      (chosen.shown.Perm (v.rowsWith c value) ↔ Text.trim value = value) ∧
      (chosen.shown ≠ [] ↔ Text.trim value ∈ v.distinctValues name) ∧
      (Text.trim value = value → chosen.shown ≠ []) := by
  obtain ⟨c, hc, hrows, hvalue⟩ := mem_distinctValues.mp h
  have hshown := shown_setFilters_exact (v := v) c (Text.trim value)
  rw [← filterExactly_single hc hvalue] at hshown
  have hperm := SortOrder.sort_perm v.order (v.rowsWith c (Text.trim value))
  rw [← hshown] at hperm
  have hfound : (v.filterExactly [(name, value)]).shown ≠ [] ↔
      Text.trim value ∈ v.distinctValues name := by
    rw [ne_eq, ← List.perm_nil, hperm.congr_left, List.perm_nil, mem_distinctValues]
    simp [hc, Text.blank_trim, hvalue]
  refine ⟨c, hc, hrows, rfl, hshown, ?_, hfound, fun htrim => hfound.mpr (htrim.symm ▸ h)⟩
  exact (hperm.congr_left _).trans (rowsWith_perm_iff hrows)

end

theorem choice_shows_its_rows_of_main :
    let row (id descr : String) : Row .channel := ⟨#v[id, descr, "Store"]⟩
    let v : View .channel := (start 5).load [row "C1" "Main", row "C2" " Main", row "C3" "Main"]
    let chosen := v.filterExactly [(" channeldescr", "Main")]
    "Main" ∈ v.distinctValues " channeldescr" ∧
    chosen.shown.Perm [row "C1" "Main", row "C3" "Main"] ∧ chosen.shown ≠ [] := by
  intro row v chosen
  have hoffered : "Main" ∈ v.distinctValues " channeldescr" :=
    mem_distinctValues.mpr ⟨⟨1, by decide⟩, by decide, by decide, by decide⟩
  obtain ⟨c, hc, -, -, -, hperm, -, hsome⟩ := choice_shows_its_rows_iff hoffered
  obtain rfl : (⟨1, by decide⟩ : Column .channel) = c := Option.some.inj hc
  exact ⟨hoffered, hperm.mpr (by decide), hsome (by decide)⟩

/-- The only description starts with a blank. It is offered, but choosing it leaves no row. -/
theorem choice_with_blank_shows_nothing :
    let row : Row .channel := ⟨#v["C1", " Main", "Store"]⟩
    let v : View .channel := (start 5).load [row]
    " Main" ∈ v.distinctValues "ChannelDescr" ∧
    v.all.filter (fun r => r.valueOrEmpty "ChannelDescr" == " Main") = [row] ∧
    (v.filterExactly [("ChannelDescr", " Main")]).shown = [] := by
  intro row v
  have hoffered : " Main" ∈ v.distinctValues "ChannelDescr" :=
    mem_distinctValues.mpr ⟨⟨1, by decide⟩, by decide, by decide, by decide⟩
  exact ⟨hoffered, by decide, by decide⟩

end View

end PlanningSearch
