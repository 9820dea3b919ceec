import PlanningSearch.Bucket
import PlanningSearch.Reconcile

/-!
Where a screen's rows come from once the search service has answered: a snapshot of a master
table, the keys themselves, or a bulk request to the detail service.
-/

namespace PlanningSearch

/-- A request to a collaborator: a query, or detail rows for a number of keys. -/
inductive Request where
  | search (query : String)
  | detail (bucket : Bucket) (keys : Nat)
  deriving DecidableEq, Repr

inductive Source (t : Table) where
  | snapshot (domain : Domain) (idColumn : Column t) (rows : List (Row t))
  | keys (ofKey : Key → Row t)
  | detail (fetch : Bucket → List Key → Except SearchError (List (Row t)))

namespace Source

variable {t : Table}

def master (d : Domain) (rows : List (Row d.table)) : Source d.table :=
  snapshot d d.idColumn rows

def domain? : Source t → Option Domain
  | snapshot d _ _ => some d
  | keys _ => none
  | detail _ => none

def rows : Source t → List (Row t)
  | snapshot _ _ rows => rows
  | keys _ => []
  | detail _ => []

def withRows (s : Source t) (rows : List (Row t)) : Source t :=
  match s with
  | snapshot d c _ => snapshot d c rows
  | s => s

def isDetail : Source t → Bool
  | detail _ => true
  | _ => false

def resolve (s : Source t) (bucket : Bucket) (found : List Key) :
    Except SearchError (List (Row t)) :=
  match s with
  | snapshot d c rows => .ok (reconcile found (fun k => k.id d) (fun r => r.text c) rows)
  | keys ofKey => .ok ((distinctKeys found).map ofKey)
  | detail fetch =>
    match distinctKeys found with
    | [] => .ok []
    | ks => fetch bucket ks

def asks (s : Source t) (bucket : Bucket) (found : List Key) : List Request :=
  match s with
  | detail _ =>
    match distinctKeys found with
    | [] => []
    | ks => [.detail bucket ks.length]
  | _ => []

end Source

end PlanningSearch
