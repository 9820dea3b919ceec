import PlanningSearch.Screen
import PlanningSearch.Text.Collation

/-!
A session runs a screen through a sequence of events. Searches that have been prepared or run, but
not yet applied, wait under names of their own, so that they can be run and applied in any order.
All requests made are recorded, oldest first.
-/

namespace PlanningSearch

inductive Event (t : Table) where
  | query (text : String) (flagEmpty : Bool)
  | criteria (cs : List Criterion)
  | prepare (slot query : String) (flagEmpty : Bool)
  | run (slot : String)
  | apply (slot : String)
  | refreshSaved (listing : Except SearchError (List SavedSearch))
  | select (index : Option Nat)
  | loadSaved
  | filterContaining (wanted : List (String × String))
  | filterExactly (wanted : List (String × String))
  | clearFilters
  | sort (column : String)
  | goTo (page : UInt64)
  | loadMaster (listing : Except SearchError (List (Row t)))
  | typed (domain : Domain) (uiField term : String)
  | fields (product channel location : String)
  | bucket (b : Bucket)

inductive Answer where
  | nothing
  | flag (b : Bool)
  | ticket (number : Nat)
  | ran (query : String) (ok : Bool)
  | noSlot
  deriving DecidableEq, Repr

structure Session (t : Table) where
  screen : Screen t
  prepared : List (String × Pending t)
  outcomes : List (String × Outcome t)
  asked : List Request

namespace Session

variable {t : Table}

def start (settings : ScreenSettings) (source : Source t) : Session t :=
  ⟨Screen.new settings source, [], [], []⟩

def issued (s : Session t) : List String :=
  s.asked.filterMap fun r => match r with
    | .search q => some q
    | .detail _ _ => none

def detailRequests (s : Session t) : List (Bucket × Nat) :=
  s.asked.filterMap fun r => match r with
    | .search _ => none
    | .detail b n => some (b, n)

def takeSlot (slot : String) (entries : List (String × α)) : Option (α × List (String × α)) :=
  (entries.find? fun e => e.1 == slot).map fun e => (e.2, entries.filter fun e => e.1 != slot)

def putSlot (slot : String) (a : α) (entries : List (String × α)) : List (String × α) :=
  (slot, a) :: entries.filter fun e => e.1 != slot

def overtaken? (s : Session t) (slot : String) : Option Bool :=
  (takeSlot slot s.prepared).map fun p => s.screen.desk.isOvertaken p.1.ticket

def after (s : Session t) (r : Reply t) : Session t × Answer :=
  ({ s with screen := r.screen, asked := s.asked ++ r.asked }, .flag r.ok)

def withView (s : Session t) (v : View t) : Session t :=
  { s with screen := { s.screen with view := v } }

variable [Text.Order]

def step (backend : Backend) (s : Session t) : Event t → Session t × Answer
  | .query q flag => s.after (s.screen.runQuery backend q flag)
  | .criteria cs => s.after (s.screen.runCriteria backend cs)
  | .prepare slot q flag =>
    let p := s.screen.prepare q flag
    ({ s with screen := p.1, prepared := putSlot slot p.2 s.prepared }, .ticket p.2.ticket)
  | .run slot =>
    match takeSlot slot s.prepared with
    | none => (s, .noSlot)
    | some (p, rest) =>
      let r := p.run backend (s.screen.desk.isOvertaken p.ticket)
      ({ s with
          prepared := rest
          outcomes := putSlot slot r.1 s.outcomes
          asked := s.asked ++ r.2 }, .ran p.query r.1.isOk)
  | .apply slot =>
    match takeSlot slot s.outcomes with
    | none => (s, .noSlot)
    | some (o, rest) =>
      let r := s.screen.apply o
      ({ s with screen := r.1, outcomes := rest }, .flag r.2)
  | .refreshSaved listing => ({ s with screen := s.screen.refreshSaved listing }, .nothing)
  | .select i => ({ s with screen := s.screen.select i }, .nothing)
  | .loadSaved => s.after (s.screen.loadSaved backend)
  | .filterContaining wanted => (s.withView (s.screen.view.filterContaining wanted), .nothing)
  | .filterExactly wanted => (s.withView (s.screen.view.filterExactly wanted), .nothing)
  | .clearFilters => (s.withView s.screen.view.clearFilters, .nothing)
  | .sort column =>
    let r := s.screen.view.sortBy column
    (s.withView r.1, .flag r.2)
  | .goTo page => (s.withView (s.screen.view.goTo page), .nothing)
  | .loadMaster listing =>
    let r := s.screen.loadMaster listing
    ({ s with screen := r.1 }, .flag r.2)
  | .typed d f term => s.after (s.screen.searchTyped backend d f term)
  | .fields p c l => s.after (s.screen.searchFields backend p c l)
  | .bucket b => s.after (s.screen.setBucket backend b)

def run (backend : Backend) (s : Session t) (events : List (Event t)) : Session t :=
  events.foldl (fun s e => (s.step backend e).1) s

end Session

end PlanningSearch
