import PlanningSearch.Query
import PlanningSearch.Screen.Kind
import PlanningSearch.Screen.Source
import PlanningSearch.Search
import PlanningSearch.Ticket
import PlanningSearch.View

/-!
A screen composes a query, runs it and shows the rows it leads to. A search takes three steps, so
that a newer one can overtake it: `prepare` takes a ticket, `Pending.run` asks the collaborators
without touching the screen, and `apply` shows the outcome unless its ticket was overtaken.
A failure or a rejection leaves the rows as they are and sets a message.
-/

namespace PlanningSearch

inductive Status where
  | idle
  | loading
  | loaded
  | failed
  deriving DecidableEq, Repr

abbrev Backend := String → UInt64 → UInt64 → Except SearchError SearchResult

inductive Resolution (t : Table) where
  | rows (rows : List (Row t))
  | noMatches
  | superseded

structure Pending (t : Table) where
  ticket : Nat
  query : String
  limit : UInt64
  bucket : Bucket
  flagEmpty : Bool
  source : Source t

structure Outcome (t : Table) where
  ticket : Nat
  query : String
  flagEmpty : Bool
  result : Except SearchError (Resolution t)

structure Screen (t : Table) where
  settings : ScreenSettings
  source : Source t
  view : View t
  status : Status
  message : Option String
  saved : List SavedSearch
  selected : Option Nat
  bucket : Bucket
  desk : Ticket.Desk

namespace Pending

variable {t : Table}

/-- The result of a search and the requests made for it. Whether the ticket was overtaken is seen
between the search and the fetching of rows. -/
def resolve (p : Pending t) (backend : Backend) (overtaken : Bool) :
    Except SearchError (Resolution t) × List Request :=
  match backend p.query p.limit 0 with
  | .error e => (.error e, [.search p.query])
  | .ok found =>
    if overtaken then (.ok .superseded, [.search p.query])
    else if found.keys.isEmpty then (.ok .noMatches, [.search p.query])
    else ((p.source.resolve p.bucket found.keys).map .rows,
      .search p.query :: p.source.asks p.bucket found.keys)

def run (p : Pending t) (backend : Backend) (overtaken : Bool) : Outcome t × List Request :=
  let r := p.resolve backend overtaken
  (⟨p.ticket, p.query, p.flagEmpty, r.1⟩, r.2)

end Pending

def Outcome.isOk {t : Table} (o : Outcome t) : Bool :=
  match o.result with
  | .ok _ => true
  | .error _ => false

structure Reply (t : Table) where
  screen : Screen t
  ok : Bool
  asked : List Request

namespace Screen

variable {t : Table}

def noMatchesNotice : String := "No matches for this saved query."

def new (settings : ScreenSettings) (source : Source t) : Screen t :=
  ⟨settings, source, View.start settings.itemsPerPage, .idle, none, [], none, .daily, .new⟩

def isPending (s : Screen t) : Bool := s.desk.isPending

def reject (s : Screen t) (e : SearchError) : Screen t :=
  { s with message := some e.userMessage }

def rejected (s : Screen t) (e : SearchError) : Reply t := ⟨s.reject e, false, []⟩

/-- Takes a ticket for a query, overtaking any search still in flight. -/
def prepare (s : Screen t) (query : String) (flagEmpty : Bool) : Screen t × Pending t :=
  let issued := s.desk.issue
  ({ s with desk := issued.1, status := .loading, message := none },
    ⟨issued.2, query, s.settings.searchLimit, s.bucket, flagEmpty, s.source⟩)

def failureMessage (s : Screen t) (e : SearchError) : String :=
  if Text.blank e.userMessage then s.settings.kind.failureFallback else e.userMessage

variable [Text.Order]

def apply (s : Screen t) (o : Outcome t) : Screen t × Bool :=
  match s.desk.close o.ticket with
  | (_, false) => (s, false)
  | (desk, true) =>
    let s := { s with desk := desk }
    match o.result with
    | .ok (.rows rows) =>
      ({ s with view := s.view.load rows, status := .loaded, message := none }, true)
    | .ok .noMatches =>
      ({ s with
          view := s.view.clear
          status := .loaded
          message := if o.flagEmpty then some noMatchesNotice else none }, true)
    | .ok .superseded => (s, false)
    | .error e => ({ s with status := .failed, message := some (s.failureMessage e) }, true)

def runQuery (s : Screen t) (backend : Backend) (query : String) (flagEmpty : Bool) : Reply t :=
  let prepared := s.prepare query flagEmpty
  let ran := prepared.2.run backend (prepared.1.desk.isOvertaken prepared.2.ticket)
  let applied := prepared.1.apply ran.1
  ⟨applied.1, applied.2, ran.2⟩

def showEmpty (s : Screen t) : Screen t :=
  { s with desk := s.desk.cancel.1, view := s.view.clear, status := .loaded, message := none }

def emptied (s : Screen t) : Reply t := ⟨s.showEmpty, true, []⟩

def runCriteria (s : Screen t) (backend : Backend) (cs : List Criterion) : Reply t :=
  match Query.compileChecked s.source.domain? cs with
  | .ok (some query) => s.runQuery backend query false
  | .ok none => s.emptied
  | .error e => s.rejected e

/-- Takes over a new list of saved searches. A failed listing changes nothing; a selection beyond
the end of the list is dropped. -/
def refreshSaved (s : Screen t) (listing : Except SearchError (List SavedSearch)) : Screen t :=
  match listing with
  | .ok saved => { s with saved := saved, selected := s.selected.filter fun i => i < saved.length }
  | .error _ => s

def select (s : Screen t) (i : Option Nat) : Screen t := { s with selected := i }

def selectedQuery (s : Screen t) : Option String :=
  (s.selected.bind fun i => s.saved[i]?).map SavedSearch.query

/-- Runs the selected saved search. A screen bound to a domain refuses a query without any of the
domain's fields. -/
def loadSaved (s : Screen t) (backend : Backend) : Reply t :=
  match s.selectedQuery with
  | none => s.rejected (.validation s.settings.kind.missingSavedPrompt)
  | some query =>
    match s.source.domain?.filter fun d => !d.appliesTo query with
    | some d => s.rejected (.inapplicable d)
    | none => s.runQuery backend query s.settings.flagEmptySaved

/-- Replaces the snapshot; rows are shown only after a search. -/
def loadMaster (s : Screen t) (listing : Except SearchError (List (Row t))) : Screen t × Bool :=
  match listing with
  | .ok rows =>
    ({ s with source := s.source.withRows rows, view := s.view.clear, status := .loaded }, true)
  | .error _ =>
    let name := match s.source.domain? with
      | some d => d.name
      | none => ""
    ({ s with status := .failed, message := some ("Failed to load " ++ name ++ "s.") }, false)

def masterValues (s : Screen t) (column : String) : List String :=
  match t.resolve? column with
  | none => []
  | some c => Text.sortedDistinct (s.source.rows.map fun r => r.text c)

def searchTyped (s : Screen t) (backend : Backend) (d : Domain) (uiField term : String) : Reply t :=
  if Text.blank term then s.emptied
  else match d.require uiField with
    | .error e => s.rejected e
    | .ok token =>
      match Query.fragment token term with
      | some query => s.runQuery backend query false
      | none => s.emptied

def searchFields (s : Screen t) (backend : Backend) (product channel location : String) : Reply t :=
  match Query.conjunction
      [("productid", product), ("channelid", channel), ("locationid", location)] with
  | some query => s.runQuery backend query false
  | none => s.rejected (.validation "Enter at least one of Product/Channel/Location.")

def setBucket (s : Screen t) (backend : Backend) (b : Bucket) : Reply t :=
  let s := { s with bucket := b }
  match s.selectedQuery with
  | some query => s.runQuery backend query false
  | none => ⟨s, false, []⟩

def exportName (s : Screen t) : String := s.settings.kind.exportName s.bucket

def exportCsv (s : Screen t) : Option CsvFile := s.view.export s.exportName

end Screen

end PlanningSearch
