import PlanningSearch.Text.Blank
import PlanningSearch.Text.Casing
import PlanningSearch.Text.Infix

/-!
The three master domains and the fields registered for each. A field has the name that screens
use, the column that holds its values, the token that queries are written with, and a label.
The column `Level` exists in all three domains, so its token carries the domain's name.
-/

namespace PlanningSearch

inductive Domain where
  | product
  | channel
  | location
  deriving DecidableEq, Repr, Inhabited

structure Field where
  ui : String
  column : String
  token : String
  label : String
  deriving DecidableEq, Repr

namespace Domain

def all : List Domain := [product, channel, location]

def name : Domain → String
  | product => "product"
  | channel => "channel"
  | location => "location"

def title : Domain → String
  | product => "Product"
  | channel => "Channel"
  | location => "Location"

def fields : Domain → List Field
  | product =>
    [⟨"productid", "ProductID", "productid", "Product ID"⟩,
     ⟨"productdescr", "ProductDescr", "productdescr", "Product Description"⟩,
     ⟨"businessunit", "BusinessUnit", "businessunit", "Business Unit"⟩,
     ⟨"isdailyforecastrequired", "IsDailyForecastRequired", "isdailyforecastrequired",
       "Is Daily Forecast Required"⟩,
     ⟨"isnew", "IsNew", "isnew", "Is New"⟩,
     ⟨"productfamily", "ProductFamily", "productfamily", "Product Family"⟩,
     ⟨"level", "Level", "productlevel", "Product Level"⟩]
  | channel =>
    [⟨"channelid", "ChannelID", "channelid", "Channel ID"⟩,
     ⟨"channeldescr", "ChannelDescr", "channeldescr", "Channel Description"⟩,
     ⟨"level", "Level", "channellevel", "Channel Level"⟩]
  | location =>
    [⟨"locationid", "LocationID", "locationid", "Location ID"⟩,
     ⟨"locationdescr", "LocationDescr", "locationdescr", "Location Description"⟩,
     ⟨"level", "Level", "locationlevel", "Location Level"⟩,
     ⟨"geography", "Geography", "geography", "Geography"⟩]

def tokens (d : Domain) : List String := d.fields.map Field.token

def field? (d : Domain) (token : String) : Option Field :=
  d.fields.find? fun f => Text.sameUpToCase f.token token

def owning? (token : String) : Option Domain :=
  all.find? fun d => d.tokens.any fun t => Text.sameUpToCase t token

def resolve? (d : Domain) (uiName : String) : Option String :=
  (d.fields.find? fun f => Text.sameUpToCase f.ui (Text.trim uiName)).map Field.token

/-- Whether the lower-cased query holds one of the domain's tokens followed by a colon. -/
def appliesTo (d : Domain) (query : String) : Bool :=
  let lowered := Text.lowerChars query.toList
  d.tokens.any fun t => Text.occursIn (t.toList ++ [':']) lowered

end Domain

end PlanningSearch
