import PlanningSearch.Proofs.Screen.Snapshot
import PlanningSearch.Proofs.Text.Bytes
import PlanningSearch.Proofs.Text.Distinct
import PlanningSearch.Proofs.View.Consistency

/-!
The values that a registered field offers. The tables of the master data look the column up by its
token, a screen and a view by the name of the column; all three find the same one, and offer its
texts over the rows loaded last. What is offered depends on nothing but the set of those rows.
-/

namespace PlanningSearch

variable {t : Table}

theorem Domain.column_of_mem_fields {d : Domain} {f : Field} (hf : f ∈ d.fields) :
    ∃ c, d.table.column? f.column = some c ∧ d.tokenColumn? f.token = some c ∧
      d.table.resolve? f.column = some c := by
  cases d <;> revert f <;> decide

section

variable [Text.Order]

def Column.values (c : Column t) (rows : List (Row t)) : List String :=
  Text.sortedDistinct (rows.map fun r => r.text c)

namespace Column

variable {c : Column t} {rows : List (Row t)}

theorem mem_values {x : String} :
    x ∈ c.values rows ↔ (∃ r ∈ rows, r.text c = x) ∧ Text.blank x = false := by
  rw [values, Text.mem_sortedDistinct, List.mem_map]

theorem values_congr {rows' : List (Row t)} (h : ∀ r, r ∈ rows' ↔ r ∈ rows) :
    c.values rows' = c.values rows := by
  refine Text.sortedDistinct_congr fun x _ => ?_
  rw [List.mem_map, List.mem_map]
  simp only [h]

theorem pairwise_values (c : Column t) (rows : List (Row t)) :
    (c.values rows).Pairwise fun a b =>
      (Text.collate a b).then (compare (Text.bytes a) (Text.bytes b)) = .lt := by
  simp only [Text.compare_bytes]
  exact Text.pairwise_sortedDistinct _

end Column

theorem MasterData.fieldValues_eq {m : MasterData} {d : Domain} {token : String}
    {c : Column d.table} (hc : d.tokenColumn? token = some c) :
    m.fieldValues d token = c.values (m.stored d) := by
  rw [fieldValues, hc]
  rfl

theorem Screen.masterValues_eq {s : Screen t} {name : String} {c : Column t}
    (hc : t.resolve? name = some c) : s.masterValues name = c.values s.source.rows := by
  rw [masterValues, hc]
  rfl

namespace View

theorem distinctValues_eq {v : View t} {name : String} {c : Column t}
    (hc : t.resolve? name = some c) : v.distinctValues name = c.values v.all := by
  rw [distinctValues, hc]
  rfl

def Action.bringsRows : Action t → Bool
  | .load _ _ | .clear => true
  | _ => false

theorem all_act {v : View t} {a : Action t} (h : a.bringsRows = false) : (v.act a).all = v.all := by
  cases a with
  | load | clear => cases h
  | sortBy name =>
    simp only [act, sortBy]
    split <;> rfl
  | filterContaining | filterExactly | setFilters | clearFilters | goTo | setPerPage => rfl

theorem all_run {v : View t} {actions : List (Action t)}
    (h : ∀ a ∈ actions, a.bringsRows = false) : (v.run actions).all = v.all := by
  induction actions generalizing v with
  | nil => rfl
  | cons a actions ih =>
    obtain ⟨ha, hactions⟩ := List.forall_mem_cons.mp h
    exact (ih hactions).trans (all_act ha)

end View

/-- For each registered field the tables, a master screen that loaded these rows last, and a view
that they were loaded into offer the same values, whatever was filtered, sorted or turned to since.
They are the texts of the field's column that are not blank, strictly increasing by the collation
and then by their bytes, and depend on the set of rows alone. -/
theorem value_lists_agree (m : MasterData) {d : Domain} {f : Field} (hf : f ∈ d.fields) :
    let rows := m.stored d
    let values := m.fieldValues d f.token
    (∀ backend settings first events, Session.lastLoaded first events = rows →
      ((Session.start settings (Source.master d first)).run backend events).screen.masterValues
        f.column = values) ∧
    (∀ (v : View d.table) (actions : List (View.Action d.table)),
      (∀ a ∈ actions, a.bringsRows = false) →
        ((v.load rows).run actions).distinctValues f.column = values) ∧
    (∀ x, x ∈ values ↔ (∃ r ∈ rows, r.value? f.column = some x) ∧ Text.blank x = false) ∧
    (values.Pairwise fun a b =>
      (Text.collate a b).then (compare (Text.bytes a) (Text.bytes b)) = .lt) ∧
    values.Nodup ∧
    ∀ m' : MasterData, (∀ r, r ∈ m'.stored d ↔ r ∈ rows) → m'.fieldValues d f.token = values := by
  intro rows values
  obtain ⟨c, hname, htoken, hresolve⟩ := Domain.column_of_mem_fields hf
  have hvalues : values = c.values rows := MasterData.fieldValues_eq htoken
  rw [hvalues]
  refine ⟨fun backend settings first events hlast => ?_, fun v actions hkeep => ?_, fun x => ?_,
    c.pairwise_values rows, ?_, fun m' hsame => ?_⟩
  · have hsource :=
      (Session.run_settings_source backend settings (Source.master d first) events).2
    rw [Screen.masterValues_eq hresolve, hsource]
    exact congrArg c.values hlast
  · rw [View.distinctValues_eq hresolve, View.all_run hkeep]
    rfl
  · rw [Column.mem_values]
    simp only [Row.value?, hname, Option.map_some, Option.some.injEq]
  · exact Text.nodup_of_pairwise_lt (Text.pairwise_sortedDistinct _)
  · rw [MasterData.fieldValues_eq htoken, Column.values_congr hsame]

end

theorem value_lists_agree_of_levels :
    let row (id level : String) : Row .channel := ⟨#v[id, "", level]⟩
    let rows := [row "C1" "store", row "C2" " ", row "C3" "Store", row "C4" "store"]
    let others :=
      [row "C4" "store", row "C3" "Store", row "C2" " ", row "C3" "Store", row "C1" "store"]
    let m : MasterData := { channels := rows }
    let values := m.fieldValues .channel "channellevel"
    let events : List (Event (Domain.table .channel)) :=
      [.loadMaster (.ok rows), .sort "Level", .filterExactly [("Level", "store")]]
    let s := (Session.start (.usual .channel) (Source.master .channel [])).run
      ({} : SearchService).search events
    let actions : List (View.Action .channel) := [.sortBy "Level", .goTo 2]
    let v := ((View.start 2).load rows).run actions
    s.screen.masterValues "Level" = values ∧ v.distinctValues "Level" = values ∧
    "store" ∈ values ∧ "Store" ∈ values ∧ " " ∉ values ∧ values.Nodup ∧
    ({ channels := others } : MasterData).fieldValues .channel "channellevel" = values := by
  intro row rows others m values events s actions v
  have hlevel : (⟨"level", "Level", "channellevel", "Channel Level"⟩ : Field) ∈
      Domain.fields .channel := by decide
  obtain ⟨hscreen, hview, hmem, -, hnodup, hsame⟩ := value_lists_agree m hlevel
  have hkeep : ∀ a ∈ actions, a.bringsRows = false := by decide
  refine ⟨hscreen _ _ _ _ rfl, hview _ _ hkeep, ?_, ?_, ?_, hnodup, hsame _ fun r => ?_⟩
  · have hrow : row "C1" "store" ∈ rows := by decide
    exact (hmem _).mpr ⟨⟨_, hrow, by decide⟩, by decide⟩
  · have hrow : row "C3" "Store" ∈ rows := by decide
    exact (hmem _).mpr ⟨⟨_, hrow, by decide⟩, by decide⟩
  · exact fun h => absurd ((hmem _).mp h).2 (by decide)
  · have hthere : ∀ a ∈ others, a ∈ rows := by decide
    have hback : ∀ a ∈ rows, a ∈ others := by decide
    exact ⟨hthere r, hback r⟩

end PlanningSearch
