import Mathlib.Data.List.Induction
import PlanningSearch.Proofs.Reconcile

/-!
What rows are kept depends on the set of keys alone. Keys are taken one by one, and each of them
joins the distinct keys at the end unless it is among them; so these have no repeats, the members of
the list and its order of first occurrence, and nothing changes when they are taken again. A master
row stays when some key names it. Order, repeats and foreign keys do not count, and two lists of
keys filter the rows independently of each other.
-/

namespace PlanningSearch

theorem distinctKeys_concat (keys : List Key) (k : Key) :
    distinctKeys (keys ++ [k]) =
      if k ∈ keys then distinctKeys keys else distinctKeys keys ++ [k] := by
  rw [distinctKeys, List.eraseDups_append]
  by_cases h : k ∈ keys
  · simp [distinctKeys, List.removeAll, h]
  · simp [distinctKeys, List.removeAll, h, List.eraseDups_cons]

theorem distinctKeys_of_nodup {keys : List Key} (h : keys.Nodup) : distinctKeys keys = keys := by
  induction keys using List.reverseRecOn with
  | nil => rfl
  | append_singleton keys k ih =>
    obtain ⟨hkeys, -, hdisjoint⟩ := List.nodup_append.mp h
    have hnew : k ∉ keys := fun hk => hdisjoint k hk k (List.mem_singleton.mpr rfl) rfl
    rw [distinctKeys_concat, if_neg hnew, ih hkeys]

def Row.NamedBy {d : Domain} (r : Row d.table) (keys : List Key) : Prop :=
  ∃ k ∈ keys, r.text d.idColumn = k.id d

instance {d : Domain} (r : Row d.table) (keys : List Key) : Decidable (r.NamedBy keys) :=
  inferInstanceAs (Decidable (∃ k ∈ keys, _))

variable {d : Domain} {keys keys' : List Key}

theorem filterMaster_eq_filter (keys : List Key) (rows : List (Row d.table)) :
    filterMaster d keys rows = rows.filter fun r => decide (r.NamedBy keys) := by
  rw [filterMaster, reconcile_eq_filter]
  exact List.filter_congr fun r _ => decide_eq_decide.mpr Iff.rfl

theorem Row.namedBy_congr (h : ∀ k, k ∈ keys ↔ k ∈ keys') (r : Row d.table) :
    r.NamedBy keys ↔ r.NamedBy keys' :=
  exists_congr fun k => and_congr_left fun _ => h k

theorem Row.namedBy_append (r : Row d.table) :
    r.NamedBy (keys ++ keys') ↔ r.NamedBy keys ∨ r.NamedBy keys' := by
  simp only [NamedBy, List.mem_append, or_and_right, exists_or]

theorem filterMaster_congr (h : ∀ k, k ∈ keys ↔ k ∈ keys') (rows : List (Row d.table)) :
    filterMaster d keys rows = filterMaster d keys' rows := by
  rw [filterMaster_eq_filter, filterMaster_eq_filter]
  exact List.filter_congr fun r _ => decide_eq_decide.mpr (r.namedBy_congr h)

theorem mem_filterMaster {rows : List (Row d.table)} {r : Row d.table} :
    r ∈ filterMaster d keys rows ↔ r ∈ rows ∧ r.NamedBy keys := by
  rw [filterMaster_eq_filter, List.mem_filter, decide_eq_true_eq]

/-- The distinct keys are the keys without repeats, in order of first occurrence: each key joins at
the end unless it was there before, and joins once if all are taken again. The rows kept are those
that some key names, each as often and where it stood. They are the same for all lists with the same
keys, two lists of keys filter in either order, parts of the table are filtered by themselves, and
two lists together keep what one of them keeps. -/
theorem kept_by_key_set (d : Domain) (keys keys' : List Key) (rows rows' : List (Row d.table)) :
    ((distinctKeys keys).Nodup ∧ (∀ k, k ∈ distinctKeys keys ↔ k ∈ keys) ∧
      ((distinctKeys keys).Pairwise fun a b => keys.idxOf a < keys.idxOf b) ∧
      (∀ k, distinctKeys (keys ++ [k]) =
        if k ∈ keys then distinctKeys keys else distinctKeys keys ++ [k]) ∧
      distinctKeys (distinctKeys keys) = distinctKeys keys) ∧
    filterMaster d keys rows = rows.filter (fun r => decide (r.NamedBy keys)) ∧
    ((∀ k, k ∈ keys ↔ k ∈ keys') → filterMaster d keys rows = filterMaster d keys' rows) ∧
    filterMaster d (distinctKeys keys) rows = filterMaster d keys rows ∧
    filterMaster d keys (filterMaster d keys' rows) =
      filterMaster d keys' (filterMaster d keys rows) ∧
    filterMaster d keys (rows ++ rows') = filterMaster d keys rows ++ filterMaster d keys rows' ∧
    (∀ r, r ∈ filterMaster d (keys ++ keys') rows ↔
      r ∈ filterMaster d keys rows ∨ r ∈ filterMaster d keys' rows) ∧
    distinctKeys [] = [] ∧ filterMaster d [] rows = [] := by
  have hnodup := distinctKeys_nodup keys
  refine ⟨⟨hnodup, fun k => mem_distinctKeys, distinctKeys_pairwise keys, distinctKeys_concat keys,
    distinctKeys_of_nodup hnodup⟩, filterMaster_eq_filter keys rows,
    fun h => filterMaster_congr h rows, filterMaster_congr (fun k => mem_distinctKeys) rows,
    List.filter_comm _ _ rows, List.filter_append rows rows', fun r => ?_, rfl, ?_⟩
  · rw [mem_filterMaster, mem_filterMaster, mem_filterMaster, r.namedBy_append, and_or_left]
  · rw [filterMaster_eq_filter, List.filter_eq_nil_iff]
    simp [Row.NamedBy]

theorem kept_by_key_set_of_repeated_key :
    let a := Key.ofParts "P1" "C1" ""
    let b := Key.ofParts "" "C2" "L1"
    let row (id : String) : Row Domain.channel.table := ⟨#v[id, "Main", "Store"]⟩
    let rows := [row "C2", row "C1", row "C3", row "C2"]
    (∀ k, k ∈ [a, b, a] ↔ k ∈ [b, a]) ∧
    filterMaster .channel [b, a] rows = [row "C2", row "C1", row "C2"] ∧
    filterMaster .channel [a, b, a] rows = [row "C2", row "C1", row "C2"] ∧
    distinctKeys [a, b, a] = [a, b] := by
  intro a b row rows
  have hsame : ∀ k, k ∈ [a, b, a] ↔ k ∈ [b, a] := by
    intro k
    simp only [List.mem_cons, List.not_mem_nil, or_false]
    tauto
  have hkept : filterMaster .channel [b, a] rows = [row "C2", row "C1", row "C2"] := by decide
  obtain ⟨-, -, hcongr, -⟩ := kept_by_key_set .channel [a, b, a] [b, a] rows []
  exact ⟨hsame, hkept, (hcongr hsame).trans hkept, by decide⟩

end PlanningSearch
