import PlanningSearch.Csv
import PlanningSearch.Text.Distinct

/-!
The filtered, sorted and paged view of a list of rows. The rows shown are those that pass all
filters; when they are filtered anew they are sorted anew, and a change of the sort order sorts the
rows shown at that moment. The page stays between one and the number of pages. Pages and page
sizes are 64-bit numbers.
-/

namespace PlanningSearch

inductive MatchMode where
  | contains
  | exact
  deriving DecidableEq, Repr

/-- A condition on one column; without a column it sees the empty text. -/
structure Filter (t : Table) where
  column : Option (Column t)
  needle : String
  mode : MatchMode
  deriving DecidableEq, Repr

structure SortOrder (t : Table) where
  column : Column t
  descending : Bool
  deriving DecidableEq, Repr

structure View (t : Table) where
  all : List (Row t)
  shown : List (Row t)
  filters : List (Filter t)
  page : UInt64
  perPage : UInt64
  order : Option (SortOrder t)
  deriving DecidableEq

namespace Filter

variable {t : Table}

def keeps (f : Filter t) (r : Row t) : Bool :=
  let value := match f.column with
    | some c => r.text c
    | none => ""
  match f.mode with
  | .contains => Text.occursIn f.needle.toList (Text.lowerChars value.toList)
  | .exact => value == f.needle

def containing? (name needle : String) : Option (Filter t) :=
  (t.resolve? name).bind fun c =>
    let needle := Text.lower (Text.trim needle)
    if needle.isEmpty then none else some ⟨some c, needle, .contains⟩

def exactly? (name needle : String) : Option (Filter t) :=
  (t.resolve? name).bind fun c =>
    let needle := Text.trim needle
    if needle.isEmpty then none else some ⟨some c, needle, .exact⟩

end Filter

variable [Text.Order]

namespace SortOrder

variable {t : Table}

def le (o : SortOrder t) (a b : Row t) : Bool :=
  if o.descending then (Text.collate (b.text o.column) (a.text o.column)).isLE
  else (Text.collate (a.text o.column) (b.text o.column)).isLE

/-- Sorts rows; rows with equal texts keep their order in either direction. -/
def sort (order : Option (SortOrder t)) (rows : List (Row t)) : List (Row t) :=
  match order with
  | none => rows
  | some o => rows.mergeSort o.le

def choose (order : Option (SortOrder t)) (c : Column t) : SortOrder t :=
  match order with
  | some o => if o.column = c then ⟨c, !o.descending⟩ else ⟨c, false⟩
  | none => ⟨c, false⟩

end SortOrder

namespace View

variable {t : Table}

def windowSize : UInt64 := 5

def start (perPage : UInt64) : View t := ⟨[], [], [], 1, max perPage 1, none⟩

def passes (filters : List (Filter t)) (r : Row t) : Bool := filters.all fun f => f.keeps r

def count (v : View t) : UInt64 := UInt64.ofNat v.shown.length

def totalPages (v : View t) : UInt64 :=
  let full := v.count / v.perPage
  max (if v.count % v.perPage = 0 then full else full + 1) 1

def clamp (v : View t) : View t :=
  { v with page := if v.page < 1 then 1 else if v.totalPages < v.page then v.totalPages else v.page }

def refresh (v : View t) : View t :=
  { v with shown := SortOrder.sort v.order (v.all.filter (passes v.filters)) }

def load (v : View t) (rows : List (Row t)) : View t :=
  { ({ v with all := rows } : View t).refresh with page := 1 }

def clear (v : View t) : View t := v.load []

def setFilters (v : View t) (filters : List (Filter t)) : View t :=
  { ({ v with filters := filters } : View t).refresh with page := 1 }

def clearFilters (v : View t) : View t := v.setFilters []

def filterContaining (v : View t) (wanted : List (String × String)) : View t :=
  v.setFilters (wanted.filterMap fun w => Filter.containing? w.1 w.2)

def filterExactly (v : View t) (wanted : List (String × String)) : View t :=
  v.setFilters (wanted.filterMap fun w => Filter.exactly? w.1 w.2)

def sortBy (v : View t) (name : String) : View t × Bool :=
  match t.resolve? name with
  | none => (v, false)
  | some c =>
    let order := some (SortOrder.choose v.order c)
    ({ v with order := order, shown := SortOrder.sort order v.shown }, true)

def goTo (v : View t) (page : UInt64) : View t := ({ v with page := page } : View t).clamp

def setPerPage (v : View t) (perPage : UInt64) : View t :=
  ({ v with perPage := max perPage 1 } : View t).clamp

def pageRows (v : View t) : List (Row t) :=
  let first := min ((v.page - 1) * v.perPage) v.count
  let last := min (first + v.perPage) v.count
  (v.shown.take last.toNat).drop first.toNat

def pagesFrom (first : UInt64) (count : Nat) : List UInt64 :=
  (List.range count).map fun i => first + UInt64.ofNat i

def pageRange (v : View t) : List UInt64 := pagesFrom 1 v.totalPages.toNat

def visiblePages (v : View t) : List UInt64 :=
  let total := v.totalPages
  if total ≤ windowSize then v.pageRange
  else
    let half := windowSize / 2
    let before := if half ≤ v.page then v.page - half else 0
    pagesFrom (min (max before 1) (total - windowSize + 1)) windowSize.toNat

def distinctValues (v : View t) (name : String) : List String :=
  match t.resolve? name with
  | none => []
  | some c => Text.sortedDistinct (v.all.map fun r => r.text c)

end View

structure CsvFile where
  name : String
  content : String
  deriving DecidableEq, Repr

def View.export {t : Table} (v : View t) (name : String) : Option CsvFile :=
  if v.shown.isEmpty then none else some ⟨name, Csv.ofRows v.shown⟩

end PlanningSearch
