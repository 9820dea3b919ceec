import PlanningSearch.Text.Casing

/-!
The order in which texts are sorted: that of a collator, which may be any total preorder. Where no
collator can be made, the lower-cased texts are compared by code points.
-/

namespace PlanningSearch.Text

structure Collator where
  compare : String → String → Ordering
  transCmp : Std.TransCmp compare

/-- The collator that sorting has, none if it could not be made. -/
class Order where
  collator? : Option Collator

def collate [Order] (a b : String) : Ordering :=
  match Order.collator? with
  | some c => c.compare a b
  | none => compare (lower a) (lower b)

end PlanningSearch.Text
