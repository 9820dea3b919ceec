import PlanningSearch.Text.Casing

/-! Requests to the service and its responses. -/

namespace PlanningSearch.Web

structure HttpRequest where
  method : String
  target : String
  headers : List (String × String)
  body : String
  deriving DecidableEq, Repr

structure HttpResponse where
  status : Nat
  headers : List (String × String)
  body : String
  deriving DecidableEq, Repr

def header? (headers : List (String × String)) (name : String) : Option String :=
  (headers.find? fun h => Text.sameUpToCase h.1 name).map Prod.snd

end PlanningSearch.Web
