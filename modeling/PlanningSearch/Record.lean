import PlanningSearch.SearchError

/-!
Flat records. A table has a fixed list of columns and a row holds one text for each of them. The
three master tables belong to the three domains; a key names a product, a channel and a location.
-/

namespace PlanningSearch

inductive Table where
  | key
  | product
  | channel
  | location
  | history
  | forecast
  deriving DecidableEq, Repr

namespace Table

def columns : Table → List String
  | key => ["ProductID", "ChannelID", "LocationID"]
  | product =>
    ["ProductID", "ProductDescr", "Level", "BusinessUnit", "IsDailyForecastRequired", "IsNew",
      "ProductFamily"]
  | channel => ["ChannelID", "ChannelDescr", "Level"]
  | location => ["LocationID", "LocationDescr", "Level", "Geography"]
  | history =>
    ["ProductID", "ChannelID", "LocationID", "Period", "StartDate", "EndDate", "Qty", "Type",
      "Level"]
  | forecast =>
    ["ProductID", "ChannelID", "LocationID", "Method", "Period", "StartDate", "EndDate", "Type",
      "Qty", "Level"]

def recordName : Table → String
  | key => "EntityKey"
  | product => "Product"
  | channel => "Channel"
  | location => "Location"
  | history => "HistoryRow"
  | forecast => "ForecastRow"

end Table

abbrev Column (t : Table) := Fin t.columns.length

def Column.name {t : Table} (c : Column t) : String := t.columns[c]

def Table.column? (t : Table) (name : String) : Option (Column t) :=
  t.columns.findFinIdx? fun c => c == name

/-- The column that a name means, ignoring blanks around it and the case of A to Z. -/
def Table.resolve? (t : Table) (name : String) : Option (Column t) :=
  t.columns.findFinIdx? fun c => Text.sameUpToCase c (Text.trim name)

structure Row (t : Table) where
  cells : Vector String t.columns.length
  deriving DecidableEq

namespace Row

variable {t : Table}

def text (r : Row t) (c : Column t) : String := r.cells[c]

def ofFn (f : Column t → String) : Row t := ⟨Vector.ofFn f⟩

def value? (r : Row t) (name : String) : Option String := (t.column? name).map r.text

def valueOrEmpty (r : Row t) (name : String) : String := (r.value? name).getD ""

def texts (r : Row t) : List String := r.cells.toList

end Row

abbrev Key := Row .key

namespace Domain

def table : Domain → Table
  | product => .product
  | channel => .channel
  | location => .location

def idColumn : (d : Domain) → Column d.table
  | product => ⟨0, by decide⟩
  | channel => ⟨0, by decide⟩
  | location => ⟨0, by decide⟩

def keyColumn : Domain → Column .key
  | product => ⟨0, by decide⟩
  | channel => ⟨1, by decide⟩
  | location => ⟨2, by decide⟩

def tokenColumn? (d : Domain) (token : String) : Option (Column d.table) :=
  (d.field? token).bind fun f => d.table.column? f.column

end Domain

namespace Key

def ofParts (product channel location : String) : Key := ⟨#v[product, channel, location]⟩

def id (k : Key) (d : Domain) : String := Row.text k d.keyColumn

end Key

/-- Product, channel and location of a row, each empty when the table lacks the column. -/
def Row.triple {t : Table} (r : Row t) : String × String × String :=
  (r.valueOrEmpty "ProductID", r.valueOrEmpty "ChannelID", r.valueOrEmpty "LocationID")

end PlanningSearch
