/-! Time granularity of history and forecast rows. -/

namespace PlanningSearch

inductive Bucket where
  | daily
  | weekly
  | monthly
  deriving DecidableEq, Repr, Inhabited

namespace Bucket

def slug : Bucket → String
  | daily => "daily"
  | weekly => "weekly"
  | monthly => "monthly"

def title : Bucket → String
  | daily => "Daily"
  | weekly => "Weekly"
  | monthly => "Monthly"

end Bucket

end PlanningSearch
