import PlanningSearch.Bucket
import PlanningSearch.Cleanse
import PlanningSearch.Reconcile
import PlanningSearch.Search
import PlanningSearch.Text.Distinct

/-!
Collaborators held in memory: a search service with fixed answers, history or forecast rows by
bucket, saved searches, master tables and cleansing profiles. Each may be set to fail with a
message.
-/

namespace PlanningSearch

def failing (failure : Option String) (answer : α) : Except SearchError α :=
  match failure with
  | some m => .error (.collaborator m)
  | none => .ok answer

structure SearchService where
  answers : List (String × Except String (List Key)) := []

namespace SearchService

def answer (s : SearchService) (query : String) (keys : List Key) : SearchService :=
  ⟨(query, .ok keys) :: s.answers⟩

def fail (s : SearchService) (query message : String) : SearchService :=
  ⟨(query, .error message) :: s.answers⟩

/-- The keys of a query, the first `offset` left out and at most `limit` of them. A query without
an answer matches nothing. -/
def search (s : SearchService) (query : String) (limit offset : UInt64) :
    Except SearchError SearchResult :=
  let found (keys : List Key) : SearchResult :=
    let page := (keys.drop offset.toNat).take limit.toNat
    ⟨query, UInt64.ofNat page.length, page⟩
  match (s.answers.find? fun a => a.1 == query).map Prod.snd with
  | some (.ok keys) => .ok (found keys)
  | some (.error m) => .error (.collaborator m)
  | none => .ok (found [])

end SearchService

structure DetailService (t : Table) where
  rows : List (Bucket × List (Row t)) := []
  failure : Option String := none

namespace DetailService

variable {t : Table}

def stored (s : DetailService t) (b : Bucket) : List (Row t) :=
  (s.rows.filter fun p => p.1 == b).flatMap Prod.snd

def fetch (s : DetailService t) (b : Bucket) (keys : List Key) :
    Except SearchError (List (Row t)) :=
  let wanted := keys.map Row.triple
  failing s.failure ((s.stored b).filter fun r => wanted.contains r.triple)

end DetailService

structure SavedSearches where
  saved : List SavedSearch := []
  failure : Option String := none

namespace SavedSearches

def list (s : SavedSearches) : Except SearchError (List SavedSearch) := failing s.failure s.saved

def add (s : SavedSearches) (now : Instant) (name query : String) : SavedSearches × SavedSearch :=
  let entry : SavedSearch := ⟨some (s.saved.length + 1), name, query, some now⟩
  ({ s with saved := s.saved ++ [entry] }, entry)

def create (s : SavedSearches) (now : Instant) (name query : String) :
    Except SearchError (SavedSearches × SavedSearch) :=
  failing s.failure (s.add now name query)

end SavedSearches

structure MasterData where
  products : List (Row .product) := []
  channels : List (Row .channel) := []
  locations : List (Row .location) := []
  failure : Option String := none

namespace MasterData

def stored (m : MasterData) : (d : Domain) → List (Row d.table)
  | .product => m.products
  | .channel => m.channels
  | .location => m.locations

def list (m : MasterData) (d : Domain) : Except SearchError (List (Row d.table)) :=
  failing m.failure (m.stored d)

def catalog (m : MasterData) : Except SearchError MasterData := failing m.failure m

variable [Text.Order]

def fieldValues (m : MasterData) (d : Domain) (token : String) : List String :=
  match d.tokenColumn? token with
  | none => []
  | some c => Text.sortedDistinct ((m.stored d).map fun r => r.text c)

end MasterData

structure Profiles where
  profiles : List Cleanse.Profile := []
  failure : Option String := none

namespace Profiles

open Cleanse

def list (s : Profiles) : Except SearchError (List Profile) := failing s.failure s.profiles

def create (s : Profiles) (now : Instant) (name : String) (config : Config) :
    Except SearchError (Profiles × Profile) :=
  let entry : Profile := ⟨some (s.profiles.length + 1), name, config, some now⟩
  failing s.failure ({ s with profiles := s.profiles ++ [entry] }, entry)

def save (s : Profiles) (now : Instant) (name : String) (config : Config) :
    Except SearchError (Profiles × Profile) :=
  let name := Text.trim name
  if name.isEmpty then .error (.validation "Please enter a profile name.")
  else match s.create now name config with
    | .error (.collaborator m) =>
      .error (.collaborator (if Text.blank m then "Failed to save profile." else m))
    | r => r

end Profiles

end PlanningSearch
