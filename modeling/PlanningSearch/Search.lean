import PlanningSearch.Record
import PlanningSearch.Instant

/-! What the search service answers, and searches saved under a name. -/

namespace PlanningSearch

structure SearchResult where
  query : String
  count : UInt64
  keys : List Key
  deriving DecidableEq

structure SavedSearch where
  id : Option Int
  name : String
  query : String
  createdAt : Option Instant
  deriving DecidableEq, Repr

end PlanningSearch
