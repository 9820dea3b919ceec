import PlanningSearch.Text.Order

/-! Texts are sorted by a total preorder, with a collator and without one. -/

namespace PlanningSearch.Text

open Std

variable [Order]

instance transCmp_collate : TransCmp collate := by
  unfold collate
  cases Order.collator? with
  | some c => exact c.transCmp
  | none => exact inferInstanceAs (TransCmp (compareOn lower))

theorem collate_swap (x y : String) : collate x y = (collate y x).swap := OrientedCmp.eq_swap

end PlanningSearch.Text
