import PlanningSearch.Record

/-!
From returned keys to rows. A master table keeps the rows whose identifier occurs among the keys,
in the table's order; otherwise the distinct keys themselves are used, in order of first
occurrence.
-/

namespace PlanningSearch

def reconcile (keys : List Key) (fragment : Key → String) (textOf : α → String) (rows : List α) :
    List α :=
  let allowed := keys.map fragment
  rows.filter fun r => allowed.contains (textOf r)

def filterMaster (d : Domain) (keys : List Key) (rows : List (Row d.table)) :
    List (Row d.table) :=
  reconcile keys (fun k => k.id d) (fun r => r.text d.idColumn) rows

def distinctKeys (keys : List Key) : List Key := keys.eraseDups

def idSet (d : Domain) (keys : List Key) : List String :=
  ((keys.map fun k => k.id d).eraseDups).mergeSort fun a b => (compare a b).isLE

end PlanningSearch
