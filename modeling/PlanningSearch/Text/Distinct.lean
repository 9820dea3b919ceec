import PlanningSearch.Text.Blank
import PlanningSearch.Text.Order

/-! Lists of values to choose from: without blank texts and repeats, in sorted order. -/

namespace PlanningSearch.Text

variable [Order]

def valueOrder (a b : String) : Ordering := (collate a b).then (compare a b)

def sortedDistinct (values : List String) : List String :=
  ((values.filter fun v => !blank v).mergeSort fun a b => (valueOrder a b).isLE).eraseReps

end PlanningSearch.Text
