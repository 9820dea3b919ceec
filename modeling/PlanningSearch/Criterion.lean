import PlanningSearch.Text.Blank

/-!
Search criteria. A criterion asks for a value in a field; its operator stands before it and joins
it to the criterion in front.
-/

namespace PlanningSearch

inductive Operator where
  | and
  | or
  deriving DecidableEq, Repr, Inhabited

def Operator.text : Operator → String
  | and => "AND"
  | or => "OR"

structure Criterion where
  field : String
  value : String
  operator : Option Operator := none
  deriving DecidableEq, Repr

namespace Criterion

def joiner (c : Criterion) : Operator := c.operator.getD .and

def blank (c : Criterion) : Bool := Text.blank c.value

def joined (op : Operator) (field value : String) : Criterion := ⟨field, value, some op⟩

end Criterion

end PlanningSearch
