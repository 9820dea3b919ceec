import PlanningSearch.Criterion
import PlanningSearch.SearchError

/-!
Compilation of criteria into a query `token:value ((AND|OR) token:value)*`. A value without a
wildcard is wrapped in asterisks; a value with a blank, a colon or a double quote is then quoted,
and its own double quotes are written `\"`. Criteria with a blank value are left out.
-/

namespace PlanningSearch.Query

def isWildcard (c : Char) : Bool := c == '.' || c == '*' || c == '%'

def needsQuotes (c : Char) : Bool := Text.isBlank c || c == ':' || c == '"'

/-- A value without a wildcard asks for a match anywhere. -/
def widen (value : List Char) : List Char :=
  if value.any isWildcard then value else '*' :: value ++ ['*']

def escape : List Char → List Char
  | [] => []
  | c :: cs => if c = '"' then '\\' :: '"' :: escape cs else c :: escape cs

def quote (value : List Char) : List Char :=
  if value.any needsQuotes then '"' :: escape value ++ ['"'] else value

def formatValue (value : String) : Option String :=
  match Text.trimChars value.toList with
  | [] => none
  | trimmed => some (String.ofList (quote (widen trimmed)))

def fragment (token value : String) : Option String :=
  (formatValue value).map fun v => token ++ ":" ++ v

def pieces (cs : List Criterion) : List (Operator × String) :=
  cs.filterMap fun c => (fragment c.field c.value).map fun p => (c.joiner, p)

def join : List (Operator × String) → Option String
  | [] => none
  | (_, first) :: rest => some (rest.foldl (fun q p => q ++ " " ++ p.1.text ++ " " ++ p.2) first)

def compile (cs : List Criterion) : Option String := join (pieces cs)

def conjunction (fields : List (String × String)) : Option String :=
  compile (fields.map fun f => Criterion.joined .and f.1 f.2)

def canonicalField (domain : Option Domain) (field : String) : Except SearchError String :=
  match domain with
  | some d =>
    match d.field? field with
    | some f => .ok f.token
    | none => .error (.unknownField d field)
  | none =>
    match (Domain.owning? field).bind fun d => d.field? field with
    | some f => .ok f.token
    | none => .error (.validation ("Unknown search field '" ++ field ++ "'."))

def canonical (domain : Option Domain) : List Criterion → Except SearchError (List Criterion)
  | [] => .ok []
  | c :: cs =>
    if c.blank then canonical domain cs
    else match canonicalField domain c.field with
      | .error e => .error e
      | .ok token =>
        match canonical domain cs with
        | .error e => .error e
        | .ok rest => .ok ({ c with field := token } :: rest)

/-- Compiles after checking that each criterion that is not blank names a registered token. -/
def compileChecked (domain : Option Domain) (cs : List Criterion) :
    Except SearchError (Option String) :=
  (canonical domain cs).map compile

end PlanningSearch.Query
