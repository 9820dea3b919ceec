import PlanningSearch.Proofs.Ticket.Desk
import PlanningSearch.Screen.Session

/-!
What a search form comes to. Before any collaborator is asked, a form is refused, or has nothing to
run, or runs one query; a query that is run ends as its answer says. An outcome whose ticket is
open is shown, and closes the ticket; the source, the settings and the saved searches stay.
-/

namespace PlanningSearch

open Ticket

variable {t : Table}

inductive Turn where
  | refuse (e : SearchError)
  | empty
  | search (query : String) (flagEmpty : Bool)
  | stay
  deriving DecidableEq, Repr

variable [Text.Order] in
def Turn.take (backend : Backend) (s : Screen t) : Turn → Reply t
  | .refuse e => s.rejected e
  | .empty => s.emptied
  | .search query flag => s.runQuery backend query flag
  | .stay => ⟨s, false, []⟩

namespace Screen

def criteriaTurn (s : Screen t) (cs : List Criterion) : Turn :=
  match Query.compileChecked s.source.domain? cs with
  | .ok (some query) => .search query false
  | .ok none => .empty
  | .error e => .refuse e

def typedTurn (d : Domain) (uiField term : String) : Turn :=
  if Text.blank term then .empty
  else match d.require uiField with
    | .error e => .refuse e
    | .ok token => ((Query.fragment token term).map fun query => .search query false).getD .empty

def fieldsTurn (product channel location : String) : Turn :=
  match Query.conjunction
      [("productid", product), ("channelid", channel), ("locationid", location)] with
  | some query => .search query false
  | none => .refuse (.validation "Enter at least one of Product/Channel/Location.")

def savedTurn (s : Screen t) : Turn :=
  match s.selectedQuery with
  | none => .refuse (.validation s.settings.kind.missingSavedPrompt)
  | some query =>
    match s.source.domain?.filter fun d => !d.appliesTo query with
    | some d => .refuse (.inapplicable d)
    | none => .search query s.settings.flagEmptySaved

def bucketTurn (s : Screen t) : Turn :=
  (s.selectedQuery.map fun query => .search query false).getD .stay

variable [Text.Order] (backend : Backend) (s : Screen t)

theorem runCriteria_eq (cs : List Criterion) :
    s.runCriteria backend cs = (s.criteriaTurn cs).take backend s := by
  unfold runCriteria criteriaTurn
  rcases Query.compileChecked s.source.domain? cs with e | _ | query <;> rfl

theorem searchTyped_eq (d : Domain) (uiField term : String) :
    s.searchTyped backend d uiField term = (typedTurn d uiField term).take backend s := by
  unfold searchTyped typedTurn
  split
  · rfl
  · cases d.require uiField with
    | error e => rfl
    | ok token =>
      dsimp only
      cases Query.fragment token term <;> rfl

theorem searchFields_eq (product channel location : String) :
    s.searchFields backend product channel location =
      (fieldsTurn product channel location).take backend s := by
  unfold searchFields fieldsTurn
  cases Query.conjunction
    [("productid", product), ("channelid", channel), ("locationid", location)] <;> rfl

theorem loadSaved_eq : s.loadSaved backend = s.savedTurn.take backend s := by
  unfold loadSaved savedTurn
  cases s.selectedQuery with
  | none => rfl
  | some query =>
    dsimp only
    cases s.source.domain?.filter fun d => !d.appliesTo query <;> rfl

theorem setBucket_eq (b : Bucket) :
    s.setBucket backend b =
      ({ s with bucket := b } : Screen t).bucketTurn.take backend { s with bucket := b } := by
  unfold bucketTurn
  simp only [setBucket]
  cases selectedQuery { s with bucket := b } <;> rfl

end Screen

namespace Event

def turn? (s : Screen t) : Event t → Option Turn
  | .query q flag => some (.search q flag)
  | .criteria cs => some (s.criteriaTurn cs)
  | .typed d uiField term => some (Screen.typedTurn d uiField term)
  | .fields product channel location => some (Screen.fieldsTurn product channel location)
  | .loadSaved => some s.savedTurn
  | .bucket _ => some s.bucketTurn
  | _ => none

/-- The screen that a form finds: a bucket is switched before its search is run again. -/
def entered (s : Screen t) : Event t → Screen t
  | .bucket b => { s with bucket := b }
  | _ => s

variable (s : Screen t) (e : Event t)

@[simp] theorem entered_view : (e.entered s).view = s.view := by cases e <;> rfl

@[simp] theorem entered_source : (e.entered s).source = s.source := by cases e <;> rfl

@[simp] theorem entered_saved : (e.entered s).saved = s.saved := by cases e <;> rfl

@[simp] theorem entered_selected : (e.entered s).selected = s.selected := by cases e <;> rfl

@[simp] theorem entered_settings : (e.entered s).settings = s.settings := by cases e <;> rfl

@[simp] theorem entered_desk : (e.entered s).desk = s.desk := by cases e <;> rfl

end Event

variable [Text.Order] in
theorem Session.step_of_turn (backend : Backend) {s : Session t} {e : Event t} {turn : Turn}
    (h : e.turn? s.screen = some turn) :
    s.step backend e = s.after (turn.take backend (e.entered s.screen)) := by
  cases e <;> cases h
  case query q flag => rfl
  case criteria cs => exact congrArg s.after (s.screen.runCriteria_eq backend cs)
  case loadSaved => exact congrArg s.after (s.screen.loadSaved_eq backend)
  case typed d f term => exact congrArg s.after (s.screen.searchTyped_eq backend d f term)
  case fields p c l => exact congrArg s.after (s.screen.searchFields_eq backend p c l)
  case bucket b => exact congrArg s.after (s.screen.setBucket_eq backend b)

variable [Text.Order] in
def View.showing (v : View t) : Except SearchError (Resolution t) → View t
  | .ok (.rows rows) => v.load rows
  | .ok .noMatches => v.clear
  | .ok .superseded => v
  | .error _ => v

namespace Screen

variable [Text.Order]

theorem apply_of_ne {s : Screen t} {o : Outcome t} (h : s.desk.open? ≠ some o.ticket) :
    s.apply o = (s, false) := by
  rw [apply, Desk.close_of_ne h]

theorem desk_apply (s : Screen t) (o : Outcome t) :
    (s.apply o).1.desk = (s.desk.close o.ticket).1 := by
  by_cases h : s.desk.open? = some o.ticket
  · rw [apply, Desk.close_of_open? h]
    rcases o.result with e | rows | _ | _ <;> rfl
  · rw [apply_of_ne h, Desk.close_of_ne h]

theorem apply_of_open? {s : Screen t} {o : Outcome t} (h : s.desk.open? = some o.ticket)
    (hr : o.result ≠ .ok .superseded) : (s.apply o).2 = true := by
  rw [apply, Desk.close_of_open? h]
  rcases hres : o.result with e | rows | _ | _
  · rfl
  · rfl
  · rfl
  · exact absurd hres hr

structure Keeps (s s' : Screen t) : Prop where
  settings : s'.settings = s.settings
  source : s'.source = s.source
  saved : s'.saved = s.saved
  selected : s'.selected = s.selected
  bucket : s'.bucket = s.bucket

theorem apply_keeps (s : Screen t) (o : Outcome t) : s.Keeps (s.apply o).1 := by
  unfold apply
  split
  · exact ⟨rfl, rfl, rfl, rfl, rfl⟩
  · rcases o.result with e | rows | _ | _ <;> exact ⟨rfl, rfl, rfl, rfl, rfl⟩

theorem view_apply {s : Screen t} {o : Outcome t} (h : s.desk.open? = some o.ticket) :
    (s.apply o).1.view = s.view.showing o.result := by
  rw [apply, Desk.close_of_open? h]
  rcases o.result with e | rows | _ | _ <;> rfl

theorem status_apply {s : Screen t} {o : Outcome t} (h : s.desk.open? = some o.ticket)
    (hr : o.result ≠ .ok .superseded) :
    (s.apply o).1.status = if o.isOk then .loaded else .failed := by
  rw [apply, Desk.close_of_open? h, Outcome.isOk]
  rcases hres : o.result with e | rows | _ | _
  · rfl
  · rfl
  · rfl
  · exact absurd hres hr

end Screen

namespace Pending

variable {p : Pending t} {backend : Backend} {overtaken : Bool} {found : SearchResult}

theorem resolve_of_error {e : SearchError} (h : backend p.query p.limit 0 = .error e) :
    (p.resolve backend overtaken).1 = .error e := by
  rw [resolve, h]

theorem resolve_of_no_keys (h : backend p.query p.limit 0 = .ok found) (hk : found.keys = []) :
    (p.resolve backend false).1 = .ok .noMatches := by
  rw [resolve, h]
  simp [hk]

theorem resolve_of_keys (h : backend p.query p.limit 0 = .ok found) (hk : found.keys ≠ []) :
    (p.resolve backend false).1 = (p.source.resolve p.bucket found.keys).map .rows := by
  rw [resolve, h]
  simp [hk]

theorem resolve_eq_rows {rows : List (Row t)}
    (h : (p.resolve backend overtaken).1 = .ok (.rows rows)) :
    ∃ found, backend p.query p.limit 0 = .ok found ∧ found.keys ≠ [] ∧
      p.source.resolve p.bucket found.keys = .ok rows := by
  unfold resolve at h
  split at h
  · cases h
  · rename_i found hsearch
    split at h
    · cases h
    · split at h
      · cases h
      · rename_i hkeys
        refine ⟨found, hsearch, fun hnil => hkeys (List.isEmpty_iff.mpr hnil), ?_⟩
        cases hresolve : p.source.resolve p.bucket found.keys with
        | error e => simp [hresolve, Except.map] at h
        | ok resolved =>
          rw [hresolve] at h
          cases h
          rfl

theorem resolve_eq_noMatches (h : (p.resolve backend overtaken).1 = .ok .noMatches) :
    ∃ found, backend p.query p.limit 0 = .ok found ∧ found.keys = [] := by
  unfold resolve at h
  split at h
  · cases h
  · rename_i found hsearch
    split at h
    · cases h
    · split at h
      · rename_i hkeys
        exact ⟨found, hsearch, List.isEmpty_iff.mp hkeys⟩
      · cases hrows : p.source.resolve p.bucket found.keys <;> simp [hrows, Except.map] at h

theorem resolve_superseded
    (h : (p.resolve backend overtaken).1 = .ok .superseded) : overtaken = true := by
  cases overtaken with
  | true => rfl
  | false =>
    unfold resolve at h
    split at h
    · cases h
    · rename_i found _
      rw [if_neg Bool.false_ne_true] at h
      split at h
      · cases h
      · cases hrows : p.source.resolve p.bucket found.keys <;> simp [hrows, Except.map] at h

theorem resolve_ne_superseded (p : Pending t) (backend : Backend) :
    (p.resolve backend false).1 ≠ .ok .superseded :=
  fun h => Bool.false_ne_true (resolve_superseded h)

end Pending

variable [Text.Order]

namespace Screen

variable (backend : Backend) (s : Screen t)

theorem runQuery_eq (query : String) (flag : Bool) :
    let p := s.prepare query flag
    s.runQuery backend query flag =
      ⟨(p.1.apply (p.2.run backend false).1).1, true, (p.2.run backend false).2⟩ := by
  have hopen : (s.prepare query flag).1.desk.open? = some (s.prepare query flag).2.ticket :=
    s.desk.open?_issue
  have haccepted : ((s.prepare query flag).1.apply
      ((s.prepare query flag).2.run backend false).1).2 = true :=
    apply_of_open? hopen (Pending.resolve_ne_superseded _ backend)
  simp only [runQuery, Desk.isOvertaken_of_open? hopen, haccepted]

variable {s} in
theorem runQuery_result (query : String) (flag : Bool) :
    let p := (s.prepare query flag).2
    let r := (s.runQuery backend query flag).screen
    s.Keeps r ∧ r.desk.open? = none ∧
      r.view = s.view.showing (p.resolve backend false).1 ∧
      r.status = if (p.run backend false).1.isOk then .loaded else .failed := by
  intro p r
  have hopen : (s.prepare query flag).1.desk.open? = some p.ticket := s.desk.open?_issue
  have hr : r = ((s.prepare query flag).1.apply (p.run backend false).1).1 :=
    congrArg Reply.screen (s.runQuery_eq backend query flag)
  obtain ⟨hsettings, hsource, hsaved, hselected, hbucket⟩ :=
    (s.prepare query flag).1.apply_keeps (p.run backend false).1
  rw [hr]
  refine ⟨⟨hsettings, hsource, hsaved, hselected, hbucket⟩, ?_, view_apply hopen,
    status_apply hopen (p.resolve_ne_superseded backend)⟩
  rw [desk_apply]
  exact Desk.open?_close s.desk.single_issue hopen

variable {backend} {s} {query : String} {flag : Bool}

theorem runQuery_of_error {e : SearchError}
    (h : ((s.prepare query flag).2.resolve backend false).1 = .error e) :
    (s.runQuery backend query flag).screen.view = s.view ∧
      (s.runQuery backend query flag).screen.status = .failed := by
  obtain ⟨-, -, hview, hstatus⟩ := runQuery_result (s := s) backend query flag
  rw [Outcome.isOk, Pending.run, h] at hstatus
  rw [h] at hview
  exact ⟨hview, hstatus⟩

theorem runQuery_of_ok {r : Resolution t}
    (h : ((s.prepare query flag).2.resolve backend false).1 = .ok r) :
    (s.runQuery backend query flag).screen.view = s.view.showing (.ok r) ∧
      (s.runQuery backend query flag).screen.status = .loaded := by
  obtain ⟨-, -, hview, hstatus⟩ := runQuery_result (s := s) backend query flag
  rw [Outcome.isOk, Pending.run, h] at hstatus
  rw [h] at hview
  exact ⟨hview, hstatus⟩

end Screen

theorem Turn.take_keeps (backend : Backend) (s : Screen t) (turn : Turn) :
    s.Keeps (turn.take backend s).screen := by
  cases turn with
  | refuse e => exact ⟨rfl, rfl, rfl, rfl, rfl⟩
  | empty => exact ⟨rfl, rfl, rfl, rfl, rfl⟩
  | search query flag => exact (Screen.runQuery_result backend query flag).1
  | stay => exact ⟨rfl, rfl, rfl, rfl, rfl⟩

end PlanningSearch
