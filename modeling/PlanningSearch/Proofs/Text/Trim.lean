import Mathlib.Data.List.DropRight
import Mathlib.Data.List.TakeWhile
import PlanningSearch.Text.Blank

/-! What trimming leaves: nothing exactly of blank text, else a text that starts without a blank. -/

namespace PlanningSearch.Text

theorem trimRight_eq_rdropWhile (cs : List Char) : trimRight cs = cs.rdropWhile isBlank := rfl

theorem mem_of_mem_trimChars {c : Char} {cs : List Char} (h : c ∈ trimChars cs) : c ∈ cs := by
  have hleft : c ∈ trimLeft cs := (List.rdropWhile_prefix isBlank (l := trimLeft cs)).subset h
  exact (List.dropWhile_suffix isBlank).subset hleft

theorem head_trimLeft {c : Char} {cs rest : List Char} (h : trimLeft cs = c :: rest) :
    isBlank c = false := by
  have hc := List.head?_dropWhile_not isBlank cs
  rw [← trimLeft, h] at hc
  simpa using hc

theorem trimChars_eq_nil_iff {cs : List Char} :
    trimChars cs = [] ↔ ∀ c ∈ cs, isBlank c = true := by
  rw [trimChars, trimRight_eq_rdropWhile, List.rdropWhile_eq_nil_iff]
  refine ⟨fun h => ?_, fun h => ?_⟩
  · refine List.dropWhile_eq_nil_iff.mp ?_
    cases hl : cs.dropWhile isBlank with
    | nil => rfl
    | cons c rest =>
      have hc := h c (by rw [trimLeft, hl]; exact List.mem_cons_self)
      rw [head_trimLeft hl] at hc
      cases hc
  · rw [trimLeft, List.dropWhile_eq_nil_iff.mpr h]
    simp

theorem head_trimChars {c : Char} {cs rest : List Char} (h : trimChars cs = c :: rest) :
    isBlank c = false := by
  obtain ⟨dropped, hd⟩ := List.rdropWhile_prefix isBlank (l := trimLeft cs)
  rw [← trimRight_eq_rdropWhile, ← trimChars, h] at hd
  exact head_trimLeft hd.symm

theorem trimChars_trimChars (cs : List Char) : trimChars (trimChars cs) = trimChars cs := by
  have hleft : trimLeft (trimChars cs) = trimChars cs := by
    cases h : trimChars cs with
    | nil => rfl
    | cons c rest => simp [trimLeft, head_trimChars h]
  rw [trimChars, hleft, trimRight_eq_rdropWhile, trimChars, trimRight_eq_rdropWhile,
    List.rdropWhile_idempotent]

theorem trim_trim (s : String) : trim (trim s) = trim s := by
  rw [trim, trim, String.toList_ofList, trimChars_trimChars]

theorem blank_iff_trimChars {s : String} : blank s = true ↔ trimChars s.toList = [] := by
  rw [blank, List.all_eq_true, trimChars_eq_nil_iff]

theorem isEmpty_trim (s : String) : (trim s).isEmpty = blank s := by
  rw [Bool.eq_iff_iff, String.isEmpty_iff, trim, blank_iff_trimChars, String.ofList_eq_empty_iff]

theorem blank_trim (s : String) : blank (trim s) = blank s := by
  rw [Bool.eq_iff_iff, blank_iff_trimChars (s := s), blank, trim, String.toList_ofList,
    List.all_eq_true]
  cases h : trimChars s.toList with
  | nil => simp
  | cons c rest => simp [head_trimChars h]

end PlanningSearch.Text
