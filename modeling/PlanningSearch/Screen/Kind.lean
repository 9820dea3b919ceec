import PlanningSearch.Bucket
import PlanningSearch.Record

/-! The six screens, their fixed texts and their usual settings. -/

namespace PlanningSearch

inductive ScreenKind where
  | product
  | channel
  | location
  | history
  | forecast
  | forecastElement
  deriving DecidableEq, Repr

namespace ScreenKind

def title : ScreenKind → String
  | product => "Product"
  | channel => "Channel"
  | location => "Location"
  | history => "History"
  | forecast => "Forecast"
  | forecastElement => "Forecast Element"

def isMaster : ScreenKind → Bool
  | product | channel | location => true
  | history | forecast | forecastElement => false

def table : ScreenKind → Table
  | product => .product
  | channel => .channel
  | location => .location
  | history => .history
  | forecast => .forecast
  | forecastElement => .key

def exportName (k : ScreenKind) (b : Bucket) : String :=
  match k with
  | product => "Product_Search_Results.csv"
  | channel => "Channel_Search_Results.csv"
  | location => "Location_Search_Results.csv"
  | history => "Filtered_History_" ++ b.title ++ ".csv"
  | forecast => "Filtered_Forecast_" ++ b.title ++ ".csv"
  | forecastElement => "Filtered_ForecastElement.csv"

def missingSavedPrompt : ScreenKind → String
  | history | forecast => "Please choose a saved search first."
  | product | channel | location | forecastElement => "Please choose a saved search."

def failureFallback : ScreenKind → String
  | history => "Failed to load history."
  | forecast => "Failed to load forecast."
  | product | channel | location | forecastElement => "Search failed."

end ScreenKind

/-- Settings of one screen. `flagEmptySaved` asks for a notice when a saved search matches
nothing. -/
structure ScreenSettings where
  kind : ScreenKind
  itemsPerPage : UInt64
  searchLimit : UInt64
  flagEmptySaved : Bool
  exportDir : String
  deriving DecidableEq, Repr

def ScreenSettings.usual (k : ScreenKind) : ScreenSettings :=
  let sizes : UInt64 × UInt64 := match k with
    | .history => (20, 5000)
    | .forecast => (5, 5000)
    | .forecastElement => (20, 20000)
    | .product | .channel | .location => (5, 20000)
  ⟨k, sizes.1, sizes.2, k == .history || k == .forecast, "."⟩

end PlanningSearch
