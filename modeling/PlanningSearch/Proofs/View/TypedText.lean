import PlanningSearch.Proofs.Text.Sigma
import PlanningSearch.Proofs.View.Conjunction
import PlanningSearch.Text.Collation

/-!
A text typed into a filter and the rows that have it as it was typed. The filter compares lower-case
forms, each taken of the whole text. So it finds all rows that have the typed text exactly when the
capital sigmas of that text are settled by it; the final form of another one hides rows in which the
word goes on.
-/

namespace PlanningSearch.View

variable {t : Table} {name needle : String} {c : Column t}

section

variable [Text.Order]

theorem mem_shown_filterContaining (hc : t.resolve? name = some c)
    (hneedle : Text.blank needle = false) {v : View t} {r : Row t} :
    r ∈ (v.filterContaining [(name, needle)]).shown ↔ r ∈ v.all ∧
      (Text.lower (Text.trim needle)).toList <:+: (Text.lower (r.text c)).toList := by
  change r ∈ (v.filterBy .contains [(name, needle)]).shown ↔ _
  rw [filterBy_single hc hneedle, mem_shown_setFilters, List.forall_mem_singleton,
    Filter.keeps_ofCondition]
  rfl

/-- A filter for a typed text shows the rows whose lower-case form has that of the typed text. These
are at least the rows that have the text as typed, in any view, exactly when each capital sigma of
the text keeps its form whatever stands around the text. -/
theorem typed_text_shown_iff (hc : t.resolve? name = some c) (hneedle : Text.blank needle = false) :
    (∀ (v : View t) (r : Row t), r ∈ (v.filterContaining [(name, needle)]).shown ↔ r ∈ v.all ∧
      (Text.lower (Text.trim needle)).toList <:+: (Text.lower (r.text c)).toList) ∧
    ((∀ (v : View t), ∀ r ∈ v.all, (Text.trim needle).toList <:+: (r.text c).toList →
        r ∈ (v.filterContaining [(name, needle)]).shown) ↔
      Text.sigmasSettled (Text.trim needle).toList = true) := by
  refine ⟨fun v r => mem_shown_filterContaining hc hneedle, ?_⟩
  simp only [mem_shown_filterContaining hc hneedle, Text.lower, String.toList_ofList]
  rw [← Text.lowerChars_infix_iff_settled]
  constructor
  · intro hshown text htext
    -- a view with one row, whose text is the given one in every column
    let r : Row t := Row.ofFn fun _ => String.ofList text
    have hr : (r.text c).toList = text := by simp [r, Row.ofFn, Row.text]
    have hfound := hshown ((start 1).load [r]) r List.mem_cons_self
    rw [hr] at hfound
    exact (hfound htext).2
  · exact fun hfound v r hr htext => ⟨hr, hfound _ htext⟩

end

theorem typed_text_shown_of_inner_sigmas :
    let row (id descr : String) : Row .location := ⟨#v[id, descr, "City", "GR"]⟩
    let v : View .location := (start 5).load [row "L1" "ΑΘΗΝΑ", row "L2" "ΘΕΣΣΑΛΟΝΙΚΗ"]
    Table.location.resolve? " locationdescr" = some ⟨1, by decide⟩ ∧
    Text.blank "ΘΕΣΣΑ " = false ∧
    row "L2" "ΘΕΣΣΑΛΟΝΙΚΗ" ∈ (v.filterContaining [(" locationdescr", "ΘΕΣΣΑ ")]).shown := by
  intro row v
  have hname : Table.location.resolve? " locationdescr" = some ⟨1, by decide⟩ := by decide
  have hneedle : Text.blank "ΘΕΣΣΑ " = false := by decide
  have hsettled : Text.sigmasSettled (Text.trim "ΘΕΣΣΑ ").toList = true := by decide +kernel
  have hshown := (typed_text_shown_iff hname hneedle).2.mpr hsettled
  exact ⟨hname, hneedle, hshown v _ (by decide) (by decide)⟩

/-- The typed text ends in a sigma, which has the final form there but not in the row. -/
theorem typed_text_hidden_by_final_sigma :
    let row : Row .location := ⟨#v["L1", "ΘΕΣΣΑΛΟΝΙΚΗ", "City", "GR"]⟩
    let v : View .location := (start 5).load [row]
    Text.trim "ΘΕΣ" = "ΘΕΣ" ∧ "ΘΕΣ".toList <:+: (row.valueOrEmpty "LocationDescr").toList ∧
    v.all = [row] ∧ (v.filterContaining [("LocationDescr", "ΘΕΣ")]).shown = [] := by
  decide +kernel

end PlanningSearch.View
