import PlanningSearch.Domain

/-!
The ways in which an operation fails. `describe` is the technical text of a failure and
`userMessage` the text a screen shows for it.
-/

namespace PlanningSearch

inductive SearchError where
  | validation (message : String)
  | unknownField (domain : Domain) (field : String)
  | inapplicable (domain : Domain)
  | collaborator (message : String)
  | exporting (message : String)
  | config (message : String)
  | io (message : String)
  deriving DecidableEq, Repr

namespace SearchError

def describe : SearchError → String
  | validation m => "Validation error: " ++ m
  | unknownField d f => "Unknown field '" ++ f ++ "' for " ++ d.name
  | inapplicable d => "Saved search does not include " ++ d.name ++ " attributes"
  | collaborator m => "Collaborator error: " ++ m
  | exporting m => "Export error: " ++ m
  | config m => "Config error: " ++ m
  | io m => "I/O error: " ++ m

def userMessage : SearchError → String
  | validation m => m
  | collaborator m => m
  | unknownField d _ => "Please choose a valid " ++ d.name ++ " attribute."
  | inapplicable d =>
    "This saved search does not include " ++ d.name ++ " attributes. The " ++ d.title ++
      " page only runs searches with " ++ d.name ++ " fields."
  | other => other.describe

end SearchError

namespace Domain

def require (d : Domain) (uiName : String) : Except SearchError String :=
  match d.resolve? uiName with
  | some token => .ok token
  | none => .error (.unknownField d uiName)

def parse (text : String) : Except SearchError Domain :=
  let wanted := Text.asciiLowered (Text.trim text)
  match all.find? fun d => d.name == wanted with
  | some d => .ok d
  | none => .error (.validation ("Unknown domain '" ++ wanted ++ "'."))

end Domain

end PlanningSearch
