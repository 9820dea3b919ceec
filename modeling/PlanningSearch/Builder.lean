import PlanningSearch.Query
import PlanningSearch.Services

/-!
Authoring of saved searches: pick a domain and one of its fields, add criteria with their
operators, and store the compiled query under a name.
-/

namespace PlanningSearch

structure Builder where
  domain : Domain
  field : String
  nextOperator : Operator
  criteria : List Criterion
  deriving DecidableEq, Repr

namespace Builder

def new : Builder := ⟨.product, "businessunit", .and, []⟩

def setDomain (b : Builder) (d : Domain) : Builder :=
  { b with domain := d, field := (d.tokens.head?).getD "" }

def setField (b : Builder) (token : String) : Except SearchError Builder :=
  match b.domain.field? token with
  | some f => .ok { b with field := f.token }
  | none => .error (.unknownField b.domain token)

def setNextOperator (b : Builder) (op : Operator) : Builder := { b with nextOperator := op }

def add (b : Builder) (value : String) : Builder × Bool :=
  let value := Text.trim value
  if value.isEmpty || b.criteria.any fun c => c.field == b.field && c.value == value then (b, false)
  else ({ b with criteria := b.criteria ++ [⟨b.field, value, some b.nextOperator⟩] }, true)

def remove (b : Builder) (i : Nat) : Builder × Option Criterion :=
  ({ b with criteria := b.criteria.eraseIdx i }, b.criteria[i]?)

def setOperator (b : Builder) (i : Nat) (op : Operator) : Builder × Bool :=
  match b.criteria[i]? with
  | some c => ({ b with criteria := b.criteria.set i { c with operator := some op } }, true)
  | none => (b, false)

def clear (b : Builder) : Builder := { b with criteria := [] }

def query (b : Builder) : Option String := Query.compile b.criteria

def save (b : Builder) (store : SavedSearches) (now : Instant) (name : String) :
    Except SearchError (SavedSearches × SavedSearch) :=
  let name := Text.trim name
  if name.isEmpty then .error (.validation "Please enter a name.")
  else match b.query with
    | none => .error (.validation "Please add at least one criterion.")
    | some q => store.create now name q

end Builder

end PlanningSearch
