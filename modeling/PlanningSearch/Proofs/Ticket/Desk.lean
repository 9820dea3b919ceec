import PlanningSearch.Ticket

/-!
At most one ticket of a desk is open, since a new one overtakes all before it. A desk only ever
issues more tickets, and a ticket that was overtaken stays so.
-/

namespace PlanningSearch.Ticket

theorem Fate.overtake_ne_pending (f : Fate) : f.overtake ≠ .pending := by
  cases f <;> decide

namespace Desk

theorem open?_eq_none_iff {d : Desk} : d.open? = none ↔ Fate.pending ∉ d.fates := by
  rw [open?, Option.map_eq_none_iff, List.findIdx?_eq_none_iff]
  constructor
  · intro h hmem
    exact absurd (h _ hmem) (by decide)
  · intro h f hf
    rw [beq_eq_false_iff_ne]
    rintro rfl
    exact h hf

theorem isPending_iff {d : Desk} : d.isPending = true ↔ d.open? ≠ none := by
  rw [Ne, open?_eq_none_iff, Decidable.not_not, isPending, List.any_eq_true]
  simp only [beq_iff_eq, exists_eq_right]

theorem fate_of_open? {d : Desk} {k : Nat} (h : d.open? = some k) :
    d.fates[k - 1]? = some .pending := by
  obtain ⟨i, hi, rfl⟩ := Option.map_eq_some_iff.mp h
  obtain ⟨hlt, hpending, _⟩ := List.findIdx?_eq_some_iff_getElem.mp hi
  rw [Nat.add_sub_cancel, List.getElem?_eq_getElem hlt, eq_of_beq hpending]

theorem isOvertaken_of_open? {d : Desk} {k : Nat} (h : d.open? = some k) :
    d.isOvertaken k = false := by
  rw [isOvertaken, fate_of_open? h]
  rfl

theorem close_of_open? {d : Desk} {k : Nat} (h : d.open? = some k) :
    d.close k = (⟨d.fates.set (k - 1) .finished⟩, true) :=
  if_pos ⟨h, isOvertaken_of_open? h⟩

theorem close_of_ne {d : Desk} {k : Nat} (h : d.open? ≠ some k) : d.close k = (d, false) :=
  if_neg fun hk => h hk.1

theorem pending_not_mem_overtakeAll (d : Desk) : Fate.pending ∉ d.overtakeAll.fates := by
  intro h
  obtain ⟨f, _, hf⟩ := List.mem_map.mp h
  exact f.overtake_ne_pending hf

theorem open?_cancel (d : Desk) : d.cancel.1.open? = none :=
  open?_eq_none_iff.mpr d.pending_not_mem_overtakeAll

theorem open?_issue (d : Desk) : d.issue.1.open? = some d.issue.2 := by
  have hnone : d.overtakeAll.fates.findIdx? (· == .pending) = none :=
    Option.map_eq_none_iff.mp (open?_eq_none_iff.mpr d.pending_not_mem_overtakeAll)
  have hlength : d.overtakeAll.fates.length = d.fates.length := List.length_map _
  simp [open?, issue, List.findIdx?_append, hnone, hlength]

theorem open?_issue_ne {d : Desk} {k : Nat} (hk : k ≤ d.fates.length) :
    d.issue.1.open? ≠ some k := by
  intro h
  obtain rfl : d.fates.length + 1 = k := Option.some.inj (d.open?_issue.symm.trans h)
  exact Nat.not_succ_le_self _ hk

theorem length_issue (d : Desk) : d.issue.1.fates.length = d.issue.2 := by
  simp [issue, overtakeAll]

def Single (d : Desk) : Prop := d.fates.count .pending ≤ 1

theorem single_new : new.Single := Nat.zero_le 1

theorem single_issue (d : Desk) : d.issue.1.Single := by
  have hzero := List.count_eq_zero.mpr d.pending_not_mem_overtakeAll
  rw [Single, issue, List.count_append, hzero]
  decide

theorem single_cancel (d : Desk) : d.cancel.1.Single := by
  have hzero := List.count_eq_zero.mpr d.pending_not_mem_overtakeAll
  rw [Single, cancel, hzero]
  exact Nat.zero_le 1

theorem open?_close {d : Desk} {k : Nat} (hs : d.Single) (h : d.open? = some k) :
    (d.close k).1.open? = none := by
  have hfate := fate_of_open? h
  obtain ⟨hlt, hget⟩ := List.getElem?_eq_some_iff.mp hfate
  rw [close_of_open? h, open?_eq_none_iff, ← List.count_eq_zero, List.count_set hlt, hget]
  simp only [Single] at hs
  simp [hs]

theorem Single.close {d : Desk} (hs : d.Single) (k : Nat) : (d.close k).1.Single := by
  by_cases h : d.open? = some k
  · rw [Single, List.count_eq_zero.mpr (open?_eq_none_iff.mp (open?_close hs h))]
    exact Nat.zero_le 1
  · rw [close_of_ne h]
    exact hs

inductive Later : Desk → Desk → Prop where
  | refl (d : Desk) : Later d d
  | issue {d e : Desk} : Later d e → Later d e.issue.1
  | close {d e : Desk} (k : Nat) : Later d e → Later d (e.close k).1
  | cancel {d e : Desk} : Later d e → Later d e.cancel.1

namespace Later

variable {d e : Desk}

theorem single (h : Later d e) (hd : d.Single) : e.Single := by
  induction h with
  | refl => exact hd
  | issue => exact single_issue _
  | close k _ ih => exact ih.close k
  | cancel => exact single_cancel _

theorem length_le (h : Later d e) : d.fates.length ≤ e.fates.length := by
  induction h with
  | refl => exact Nat.le_refl _
  | issue _ ih =>
    rw [length_issue]
    exact Nat.le_succ_of_le ih
  | @close e k _ ih =>
    by_cases hk : e.open? = some k
    · rw [close_of_open? hk, List.length_set]
      exact ih
    · rw [close_of_ne hk]
      exact ih
  | cancel _ ih =>
    rw [Desk.cancel, overtakeAll, List.length_map]
    exact ih

theorem fate_overtakeAll {k : Nat} (h : d.fates[k]? = some .overtaken) :
    d.overtakeAll.fates[k]? = some .overtaken := by
  rw [overtakeAll, List.getElem?_map, h]
  rfl

theorem isOvertaken (h : Later d e) {k : Nat} (hk : d.isOvertaken k = true) :
    e.isOvertaken k = true := by
  simp only [Desk.isOvertaken, beq_iff_eq] at hk ⊢
  induction h with
  | refl => exact hk
  | issue _ ih =>
    have hlt := (List.getElem?_eq_some_iff.mp (fate_overtakeAll ih)).1
    rw [Desk.issue, List.getElem?_append_left hlt]
    exact fate_overtakeAll ih
  | @close e j _ ih =>
    by_cases hj : e.open? = some j
    · have hne : j - 1 ≠ k - 1 := by
        intro heq
        have hpending := fate_of_open? hj
        rw [heq, ih] at hpending
        cases hpending
      rw [close_of_open? hj, List.getElem?_set_ne hne]
      exact ih
    · rw [close_of_ne hj]
      exact ih
  | cancel _ ih => exact fate_overtakeAll ih

end Later

end Desk

end PlanningSearch.Ticket
