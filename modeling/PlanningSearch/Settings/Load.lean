import PlanningSearch.Export
import PlanningSearch.Settings
import PlanningSearch.Settings.Toml

/-!
Loading of settings in layers. A value from the environment comes before one from the settings
file, and that before the default, for each setting on its own; only the value that comes first has
to convert. Names that neither are settings nor lead into one are ignored, and so is a missing file.
-/

namespace PlanningSearch.Settings

abbrev Layer := List (String × Loose)

def defaultPath : String := "demandsearch"

def environmentStart : String := "demandsearch__"

def names : List String :=
  ["bind", "log_level", "master_search_limit", "detail_search_limit", "key_search_limit",
    "master_page_size", "detail_page_size", "export_dir"]

def variableNames : List String :=
  names.map fun n => String.ofList ((environmentStart ++ n).toList.map Char.toUpper)

def isNameChar (c : Char) : Bool :=
  ('a' ≤ c && c ≤ 'z') || ('A' ≤ c && c ≤ 'Z') || ('0' ≤ c && c ≤ '9') || c == '_' || c == '-'

/-- Whether the rest of a name is a sequence of members `.name` and indices `[number]`. -/
def isPostfix : Nat → List Char → Bool
  | _, [] => true
  | 0, _ => false
  | fuel + 1, '.' :: cs =>
    !(cs.takeWhile isNameChar).isEmpty && isPostfix fuel (cs.dropWhile isNameChar)
  | fuel + 1, '[' :: cs =>
    let digits := if cs.head? == some '-' then cs.drop 1 else cs
    !(digits.takeWhile Real.isDigit).isEmpty &&
      match digits.dropWhile Real.isDigit with
      | ']' :: rest => isPostfix fuel rest
      | _ => false
  | _, _ => false

/-- The top-level name and value that an entry sets: a path into a name makes it a table. -/
def placed (entry : String × Loose) : String × Loose :=
  let cs := entry.1.toList
  let root := cs.takeWhile isNameChar
  let rest := cs.dropWhile isNameChar
  if root.isEmpty || rest.isEmpty || !isPostfix rest.length rest then entry
  else (String.ofList root, .table)

def dotted : List Char → List Char
  | '_' :: '_' :: cs => '.' :: dotted cs
  | c :: cs => c :: dotted cs
  | [] => []

def environmentName? (name : String) : Option String :=
  if environmentStart.toList.isPrefixOf (Text.lowerChars name.toList) then
    let key := name.toList.drop environmentStart.length
    some (String.ofList (Text.lowerChars (dotted key)))
  else none

def environmentEntries (environment : List (String × String)) : Layer :=
  (environment.filterMap fun v => (environmentName? v.1).map fun n => (n, Loose.ofText v.2)).reverse

def environmentLayer (environment : List (String × String)) : Layer :=
  (environmentEntries environment).map placed

def jsonEntries? (text : String) : Option Layer :=
  match Json.Decoder.run Json.Decoder.value text with
  | .ok (.object ms) => some (ms.map fun m => (m.1, Loose.ofJson m.2))
  | _ => none

abbrev Files := List (String × String)

def Files.content? (files : Files) (path : String) : Option String :=
  (files.reverse.find? fun f => Disk.place f.1 == Disk.place path).map Prod.snd

def extension (path : String) : String :=
  let name := path.toList.reverse.takeWhile (· != '/')
  match name.dropWhile (· != '.') with
  | [] => ""
  | [_] => ""
  | _ => String.ofList (name.takeWhile (· != '.')).reverse

def withoutMark (text : String) : String :=
  match text.toList with
  | '\uFEFF' :: cs => String.ofList cs
  | _ => text

def candidates (path : Option String) : List String :=
  let path := path.getD defaultPath
  [path, path ++ ".toml", path ++ ".json"]

/-- What a settings file says, before paths are followed; none if it is not well formed. A path
without a file is tried with the known extensions. -/
def fileEntries? (files : Files) (path : String) : Option Layer :=
  let toml (text : String) := Toml.parse (withoutMark text)
  let json (text : String) := jsonEntries? (withoutMark text)
  match files.content? path with
  | some text =>
    if extension path == "toml" then toml text
    else if extension path == "json" then json text
    else some []
  | none =>
    match files.content? (path ++ ".toml"), files.content? (path ++ ".json") with
    | some text, _ => toml text
    | none, some text => json text
    | none, none => some []

def fileLayer (files : Files) (path : String) : Except SearchError Layer :=
  match fileEntries? files path with
  | some entries => .ok (entries.map placed)
  | none => .error (.config "the settings file is not well formed")

def Layer.value? (l : Layer) (name : String) : Option Loose :=
  (l.find? fun e => e.1 == name).map Prod.snd

def inForce (environment file : Layer) (name : String) : Option Loose :=
  (environment.value? name).or (file.value? name)

def converted (convert : Loose → Option α) (default : α) (name : String) (value : Option Loose) :
    Except SearchError α :=
  match value with
  | none => .ok default
  | some v =>
    match convert v with
    | some a => .ok a
    | none => .error (.config ("the value of " ++ name ++ " does not convert"))

def ofLayers (environment file : Layer) : Except SearchError Settings := do
  let text (name default : String) : Except SearchError String :=
    converted Loose.toText? default name (inForce environment file name)
  let size (name : String) (default : UInt64) : Except SearchError UInt64 :=
    converted Loose.toSize? default name (inForce environment file name)
  let bind ← text "bind" usual.bind
  let logLevel ← text "log_level" usual.logLevel
  let masterSearchLimit ← size "master_search_limit" usual.masterSearchLimit
  let detailSearchLimit ← size "detail_search_limit" usual.detailSearchLimit
  let keySearchLimit ← size "key_search_limit" usual.keySearchLimit
  let masterPageSize ← size "master_page_size" usual.masterPageSize
  let detailPageSize ← size "detail_page_size" usual.detailPageSize
  let exportDir ← text "export_dir" usual.exportDir
  return { bind, logLevel, masterSearchLimit, detailSearchLimit, keySearchLimit, masterPageSize,
           detailPageSize, exportDir }

def load (files : Files) (environment : List (String × String)) (path : Option String) :
    Except SearchError Settings := do
  let file ← fileLayer files (path.getD defaultPath)
  ofLayers (environmentLayer environment) file

end PlanningSearch.Settings
