import PlanningSearch.Proofs.Screen.InFlight
import PlanningSearch.Services

/-!
Failures leave the screen intact. An operation fails when a form is refused, when a collaborator
fails at any stage, when an outcome comes after its search was overtaken, or when a column to sort
by does not exist. None of these touches the view; a refusal sets a message and nothing else.
-/

namespace PlanningSearch

open Ticket

variable {t : Table}

namespace Session

variable (backend : Backend) {s : Session t}

/-- The ways in which an operation fails. -/
inductive Fails (s : Session t) : Event t → Prop where
  | refused {e : Event t} {err : SearchError} (h : e.turn? s.screen = some (.refuse err)) :
      Fails s e
  | searchFailed {e : Event t} {query : String} {flag : Bool} {err : SearchError}
      (h : e.turn? s.screen = some (.search query flag))
      (hsearch : backend query s.screen.settings.searchLimit 0 = .error err) : Fails s e
  | fetchFailed {e : Event t} {query : String} {flag : Bool} {found : SearchResult}
      {err : SearchError} (h : e.turn? s.screen = some (.search query flag))
      (hsearch : backend query s.screen.settings.searchLimit 0 = .ok found)
      (hkeys : found.keys ≠ [])
      (hfetch : s.screen.source.resolve (e.entered s.screen).bucket found.keys = .error err) :
      Fails s e
  | outcomeFailed {slot : String} {o : Outcome t} {rest : List (String × Outcome t)}
      {err : SearchError} (h : takeSlot slot s.outcomes = some (o, rest))
      (hresult : o.result = .error err) : Fails s (.apply slot)
  | overtaken {slot : String} {o : Outcome t} {rest : List (String × Outcome t)}
      (h : takeSlot slot s.outcomes = some (o, rest))
      (hticket : s.screen.desk.isOvertaken o.ticket = true) : Fails s (.apply slot)
  | loadFailed (err : SearchError) : Fails s (.loadMaster (.error err))
  | listingFailed (err : SearchError) : Fails s (.refreshSaved (.error err))
  | unknownColumn {name : String} (h : t.resolve? name = none) : Fails s (.sort name)

theorem entered_of_refuse {e : Event t} {err : SearchError}
    (h : e.turn? s.screen = some (.refuse err)) : e.entered s.screen = s.screen := by
  cases e with
  | bucket b =>
    simp only [Event.turn?, Screen.bucketTurn] at h
    cases hsel : s.screen.selectedQuery <;> simp [hsel] at h
  | _ => rfl

variable [Text.Order]

theorem step_of_refuse {e : Event t} {err : SearchError}
    (h : e.turn? s.screen = some (.refuse err)) :
    s.step backend e =
      ({ s with screen := { s.screen with message := some err.userMessage } }, .flag false) := by
  rw [step_of_turn backend h, entered_of_refuse h]
  simp only [after, Turn.take, Screen.rejected, Screen.reject, List.append_nil]

theorem view_of_search_failed {e : Event t} {query : String} {flag : Bool} {err : SearchError}
    (h : e.turn? s.screen = some (.search query flag))
    (hresult : (((e.entered s.screen).prepare query flag).2.resolve backend false).1 =
      .error err) : (s.step backend e).1.screen.view = s.screen.view := by
  rw [step_of_turn backend h]
  exact (Screen.runQuery_of_error hresult).1.trans (e.entered_view s.screen)

theorem view_of_outcome_failed {slot : String} {o : Outcome t} {rest : List (String × Outcome t)}
    {err : SearchError} (h : takeSlot slot s.outcomes = some (o, rest))
    (hresult : o.result = .error err) :
    (s.step backend (.apply slot)).1.screen.view = s.screen.view := by
  rw [step_apply backend h]
  by_cases hopen : s.screen.desk.open? = some o.ticket
  · refine (Screen.view_apply hopen).trans ?_
    rw [hresult]
    rfl
  · rw [Screen.apply_of_ne hopen]

theorem view_of_overtaken {slot : String} {o : Outcome t} {rest : List (String × Outcome t)}
    (h : takeSlot slot s.outcomes = some (o, rest))
    (hticket : s.screen.desk.isOvertaken o.ticket = true) :
    (s.step backend (.apply slot)).1.screen.view = s.screen.view := by
  have hclosed : s.screen.desk.open? ≠ some o.ticket := by
    intro hopen
    rw [Desk.isOvertaken_of_open? hopen] at hticket
    cases hticket
  rw [step_apply backend h, Screen.apply_of_ne hclosed]

end Session

namespace Screen

variable [Text.Order]

theorem view_apply_of_dropped {s : Screen t} {o : Outcome t} (h : (s.apply o).2 = false) :
    (s.apply o).1.view = s.view := by
  by_cases hopen : s.desk.open? = some o.ticket
  · rw [view_apply hopen]
    rw [apply, Desk.close_of_open? hopen] at h
    rcases hres : o.result with e | rows | _ | _ <;> simp only [hres] at h
    · cases h
    · cases h
    · cases h
    · rfl
  · rw [apply_of_ne hopen]

end Screen

namespace Session

variable (backend : Backend) {s : Session t}

section

variable [Text.Order]

theorem view_of_answer_false {e : Event t} (h : (s.step backend e).2 = .flag false) :
    (s.step backend e).1.screen.view = s.screen.view := by
  have of_turn {turn : Turn} (hturn : e.turn? s.screen = some turn) :
      (s.step backend e).1.screen.view = s.screen.view := by
    have hview := e.entered_view s.screen
    rw [step_of_turn backend hturn] at h ⊢
    cases turn with
    | refuse err => exact hview
    | stay => exact hview
    | empty => cases h
    | search query flag =>
      -- a query that is run never answers false
      rw [Turn.take, Screen.runQuery_eq] at h
      cases h
  cases e with
  | query | criteria | loadSaved | typed | fields | bucket => exact of_turn rfl
  | prepare slot q flag => rfl
  | run slot =>
    cases htake : takeSlot slot s.prepared with
    | none => rw [step_run_none backend htake]
    | some taken => rw [step_run backend htake]
  | apply slot =>
    cases htake : takeSlot slot s.outcomes with
    | none => rw [step_apply_none backend htake]
    | some taken =>
      rw [step_apply backend htake] at h ⊢
      exact Screen.view_apply_of_dropped (Answer.flag.inj h)
  | refreshSaved listing => cases listing <;> rfl
  | loadMaster listing =>
    cases listing with
    | error err => rfl
    | ok rows => cases h
  | sort column =>
    simp only [step, View.sortBy, withView] at h ⊢
    split
    · rfl
    · rename_i hcolumn
      rw [hcolumn] at h
      cases h
  | select i => rfl
  | filterContaining | filterExactly | clearFilters | goTo => cases h

theorem view_of_fails {e : Event t} (h : s.Fails backend e) :
    (s.step backend e).1.screen.view = s.screen.view := by
  cases h with
  | refused h => rw [step_of_refuse backend h]
  | searchFailed h hsearch =>
    rw [← e.entered_settings s.screen] at hsearch
    exact view_of_search_failed backend h (Pending.resolve_of_error hsearch)
  | @fetchFailed _ query flag _ err h hsearch hkeys hfetch =>
    rw [← e.entered_settings s.screen] at hsearch
    rw [← e.entered_source s.screen] at hfetch
    have hresult : (((e.entered s.screen).prepare query flag).2.resolve backend false).1 =
        .error err :=
      (Pending.resolve_of_keys hsearch hkeys).trans (congrArg (Except.map Resolution.rows) hfetch)
    exact view_of_search_failed backend h hresult
  | outcomeFailed h hresult => exact view_of_outcome_failed backend h hresult
  | overtaken h hticket => exact view_of_overtaken backend h hticket
  | loadFailed err => rfl
  | listingFailed err => rfl
  | unknownColumn h =>
    simp only [step, View.sortBy, h]
    rfl

/-- In every state, an operation that fails leaves the whole view as it was, and so does one that
answers false for any reason. A refusal changes the message alone, a failed load keeps the
snapshot, and a failed listing keeps the saved searches and the selection. -/
theorem failure_keeps_view (s : Session t) (e : Event t) :
    (s.Fails backend e → (s.step backend e).1.screen.view = s.screen.view) ∧
    ((s.step backend e).2 = .flag false → (s.step backend e).1.screen.view = s.screen.view) ∧
    (∀ err, e.turn? s.screen = some (.refuse err) →
      (s.step backend e).1 =
        { s with screen := { s.screen with message := some err.userMessage } }) ∧
    (∀ err, e = .loadMaster (.error err) →
      (s.step backend e).1.screen.source = s.screen.source) ∧
    (∀ err, e = .refreshSaved (.error err) →
      (s.step backend e).1.screen.saved = s.screen.saved ∧
        (s.step backend e).1.screen.selected = s.screen.selected) := by
  refine ⟨view_of_fails backend, view_of_answer_false backend, ?_, ?_, ?_⟩
  · intro err h
    rw [step_of_refuse backend h]
  · rintro err rfl
    rfl
  · rintro err rfl
    exact ⟨rfl, rfl⟩

end

theorem failure_keeps_shown_rows :
    let bread : Row (Domain.table .product) := ⟨#v["P1", "Bread", "", "", "", "Yes", ""]⟩
    let milk : Row (Domain.table .product) := ⟨#v["P2", "Milk", "", "", "", "No", ""]⟩
    let service := (({} : SearchService).answer "productid:*P*"
      [Key.ofParts "P2" "" "", Key.ofParts "P1" "" ""]).fail
        "isnew:*Yes*" "Search index unavailable"
    let s := (start (.usual .product) (Source.master .product [])).run service.search
      [.loadMaster (.ok [bread, milk]), .query "productid:*P*" false]
    let e : Event (Domain.table .product) := .criteria [⟨"IsNew", " Yes ", none⟩]
    s.Fails service.search e ∧ s.screen.view.shown = [bread, milk] ∧
      (s.step service.search e).1.screen.status = .failed ∧
      (s.step service.search e).1.screen.view = s.screen.view := by
  intro bread milk service s e
  have hturn : e.turn? s.screen = some (.search "isnew:*Yes*" false) := by decide
  have hsearch : service.search "isnew:*Yes*" s.screen.settings.searchLimit 0 =
      .error (.collaborator "Search index unavailable") := rfl
  have hfails : s.Fails service.search e := .searchFailed hturn hsearch
  exact ⟨hfails, by decide, by decide, (failure_keeps_view service.search s e).1 hfails⟩

end Session

end PlanningSearch
