import PlanningSearch.Proofs.Text.Casing
import PlanningSearch.Proofs.Text.Trim
import PlanningSearch.Proofs.View.Layers
import PlanningSearch.Text.Collation

/-!
Filters as conditions on columns. A list of column names and wanted texts comes to a set of
conditions, each a column and a text in the form in which it is compared; the rows shown are those
that meet all of them, so neither the order of the list nor repetitions count. More conditions leave
some of the rows in the order in which they stood, because a stable sort commutes with leaving out
rows.
-/

namespace PlanningSearch

variable {t : Table}

namespace SortOrder

variable [Text.Order]

theorem SortedBy.filter {orders : List (SortOrder t)} {rows sorted : List (Row t)}
    (h : SortedBy orders rows sorted) (p : Row t → Bool) :
    SortedBy orders (rows.filter p) (sorted.filter p) where
  perm := h.perm.filter p
  pairwise := h.pairwise.filter p
  stable r := by rw [List.filter_comm, h.stable, List.filter_comm]

theorem filter_sort (order : Option (SortOrder t)) (p : Row t → Bool) (rows : List (Row t)) :
    (sort order rows).filter p = sort order (rows.filter p) :=
  ((SortedBy.sort_anew order rows).filter p).unique (.sort_anew order (rows.filter p))

end SortOrder

namespace MatchMode

def normal : MatchMode → String → String
  | contains, wanted => Text.lower (Text.trim wanted)
  | exact, wanted => Text.trim wanted

def Meets : MatchMode → String → String → Prop
  | contains, wanted, text => wanted.toList <:+: (Text.lower text).toList
  | exact, wanted, text => text = wanted

theorem isEmpty_normal (mode : MatchMode) (wanted : String) :
    (mode.normal wanted).isEmpty = Text.blank wanted := by
  cases mode with
  | contains => rw [normal, Text.isEmpty_lower, Text.isEmpty_trim]
  | exact => rw [normal, Text.isEmpty_trim]

end MatchMode

/-- The conditions that wanted texts come to, each for the column that its name means. A blank text
or a name that is no column makes none. -/
def Table.conditions (t : Table) (mode : MatchMode) (wanted : List (String × String)) :
    List (Column t × String) :=
  wanted.filterMap fun w =>
    if Text.blank w.2 then none else (t.resolve? w.1).map fun c => (c, mode.normal w.2)

def Filter.ofCondition (mode : MatchMode) (p : Column t × String) : Filter t :=
  ⟨some p.1, p.2, mode⟩

theorem Filter.keeps_ofCondition {mode : MatchMode} {p : Column t × String} {r : Row t} :
    (ofCondition mode p).keeps r = true ↔ mode.Meets p.2 (r.text p.1) := by
  cases mode with
  | contains => simp [ofCondition, keeps, MatchMode.Meets, Text.occursIn_iff, Text.lower]
  | exact => simp [ofCondition, keeps, MatchMode.Meets]

namespace View

theorem passes_congr {fs gs : List (Filter t)} (h : ∀ f, f ∈ fs ↔ f ∈ gs) :
    passes fs = passes gs := by
  funext r
  rw [passes, passes, Bool.eq_iff_iff, List.all_eq_true, List.all_eq_true]
  exact forall_congr' fun f => by rw [h]

variable {v : View t}

section

variable [Text.Order]

theorem shown_setFilters_congr {fs gs : List (Filter t)} (h : ∀ f, f ∈ fs ↔ f ∈ gs) :
    (v.setFilters fs).shown = (v.setFilters gs).shown := by
  simp only [setFilters, refresh, passes_congr h]

theorem shown_setFilters_append (fs gs : List (Filter t)) :
    (v.setFilters (fs ++ gs)).shown = (v.setFilters fs).shown.filter (passes gs) := by
  simp only [setFilters, refresh]
  rw [SortOrder.filter_sort, List.filter_filter]
  congr 2
  funext r
  rw [passes, List.all_append, Bool.and_comm]
  rfl

theorem mem_shown_setFilters {filters : List (Filter t)} {r : Row t} :
    r ∈ (v.setFilters filters).shown ↔ r ∈ v.all ∧ ∀ f ∈ filters, f.keeps r = true := by
  simp only [setFilters, refresh]
  rw [(SortOrder.sort_perm v.order _).mem_iff, List.mem_filter, passes, List.all_eq_true]

def filterBy (v : View t) (mode : MatchMode) (wanted : List (String × String)) : View t :=
  match mode with
  | .contains => v.filterContaining wanted
  | .exact => v.filterExactly wanted

theorem filterBy_eq (v : View t) (mode : MatchMode) (wanted : List (String × String)) :
    v.filterBy mode wanted =
      v.setFilters ((t.conditions mode wanted).map (Filter.ofCondition mode)) := by
  have hfilter (name text : String) :
      (if Text.blank text then none else (t.resolve? name).map fun c => (c, mode.normal text)).map
        (Filter.ofCondition mode) =
      (t.resolve? name).bind fun c => if (mode.normal text).isEmpty then none else
        some ⟨some c, mode.normal text, mode⟩ := by
    rw [mode.isEmpty_normal]
    cases t.resolve? name <;> cases Text.blank text <;> rfl
  rw [Table.conditions, List.map_filterMap]
  simp only [hfilter]
  cases mode <;> rfl

theorem filterBy_single {name wanted : String} {c : Column t} (hc : t.resolve? name = some c)
    (hwanted : Text.blank wanted = false) (v : View t) (mode : MatchMode) :
    v.filterBy mode [(name, wanted)] =
      v.setFilters [Filter.ofCondition mode (c, mode.normal wanted)] := by
  simp [filterBy_eq, Table.conditions, hc, hwanted]

/-- The rows shown are those that meet all conditions; lists with the same conditions show the same
rows, and a longer list shows some of them in the same order. This holds of texts contained,
whatever their case, and of exact texts, in any state and for any active order. -/
theorem conditions_conjoin (v : View t) (mode : MatchMode) (fs gs : List (String × String)) :
    (∀ r, r ∈ (v.filterBy mode fs).shown ↔
      r ∈ v.all ∧ ∀ p ∈ t.conditions mode fs, mode.Meets p.2 (r.text p.1)) ∧
    ((∀ p, p ∈ t.conditions mode fs ↔ p ∈ t.conditions mode gs) →
      (v.filterBy mode fs).shown = (v.filterBy mode gs).shown) ∧
    (v.filterBy mode (fs ++ gs)).shown.Sublist (v.filterBy mode fs).shown := by
  refine ⟨fun r => ?_, fun h => ?_, ?_⟩
  · rw [filterBy_eq, mem_shown_setFilters, List.forall_mem_map]
    simp only [Filter.keeps_ofCondition]
  · rw [filterBy_eq, filterBy_eq]
    refine shown_setFilters_congr fun f => ?_
    rw [List.mem_map, List.mem_map]
    simp only [h]
  · rw [filterBy_eq, filterBy_eq, Table.conditions, List.filterMap_append, List.map_append,
      shown_setFilters_append]
    exact List.filter_sublist

end

theorem conditions_conjoin_of_two_spellings :
    let row (id descr level : String) : Row .channel := ⟨#v[id, descr, level]⟩
    let rows := [row "C1" "Main" "Store", row "C2" "Main" "Region", row "C3" "Mainland" "store"]
    let v : View .channel :=
      (start 5).run [.load rows (by decide), .sortBy "ChannelDescr", .sortBy "ChannelDescr"]
    let fs := [("level", " STORE "), ("ChannelDescr", "main")]
    let gs := [("CHANNELDESCR ", "MAIN"), ("Level", "store"), ("colour", "red"), ("Level", "Store"),
      ("Level", " ")]
    (∀ p, p ∈ Table.channel.conditions .contains fs ↔ p ∈ Table.channel.conditions .contains gs) ∧
    (v.filterBy .contains fs).shown = (v.filterBy .contains gs).shown ∧
    row "C3" "Mainland" "store" ∈ (v.filterBy .contains fs).shown ∧
    (v.filterBy .exact (fs ++ gs)).shown.Sublist (v.filterBy .exact fs).shown := by
  intro row rows v fs gs
  have hfs : Table.channel.conditions .contains fs =
      [(⟨2, by decide⟩, "store"), (⟨1, by decide⟩, "main")] := by decide
  have hgs : Table.channel.conditions .contains gs =
      [(⟨1, by decide⟩, "main"), (⟨2, by decide⟩, "store"), (⟨2, by decide⟩, "store")] := by decide
  have hsame (p : Column .channel × String) : p ∈ Table.channel.conditions .contains fs ↔
      p ∈ Table.channel.conditions .contains gs := by
    rw [hfs, hgs]
    simp only [List.mem_cons, List.not_mem_nil]
    tauto
  obtain ⟨hmem, hequal, -⟩ := conditions_conjoin v .contains fs gs
  refine ⟨hsame, hequal hsame, (hmem _).mpr ⟨by decide, ?_⟩,
    (conditions_conjoin v .exact fs gs).2.2⟩
  simp only [hfs, List.forall_mem_cons, MatchMode.Meets]
  decide

end View

end PlanningSearch
