import PlanningSearch.Proofs.Screen.Moments

/-!
The status of a screen. It is loading exactly while a search is in flight: preparing a search opens
a ticket and sets the status, and whatever closes the ticket sets another one. A search that gave up
halfway holds a ticket that was overtaken, which is never open again, so an outcome that is accepted
always has something to show. Only loading a snapshot sets the status without asking for a search in
flight, so it is left out here.
-/

namespace PlanningSearch

open Ticket

variable {t : Table}

def Event.isLoad : Event t → Bool
  | .loadMaster _ => true
  | _ => false

theorem Status.ended (ok : Bool) :
    (if ok then loaded else failed) = loaded ∨ (if ok then loaded else failed) = failed := by
  cases ok <;> decide

namespace Screen

theorem isPending_of_idle {s : Screen t} (h : s.desk.open? = none) : s.isPending = false := by
  rw [← Bool.not_eq_true, isPending, Desk.isPending_iff, h]
  exact fun hne => hne rfl

/-- The status is loading exactly while a search is in flight. -/
def Tells (s : Screen t) : Prop := s.status = .loading ↔ s.isPending = true

theorem Tells.of_idle {s : Screen t} (hidle : s.desk.open? = none) (h : s.status ≠ .loading) :
    s.Tells := by
  refine iff_of_false h ?_
  rw [isPending_of_idle hidle]
  exact Bool.false_ne_true

theorem prepare_tells (s : Screen t) (query : String) (flag : Bool) :
    (s.prepare query flag).1.Tells := by
  have hopen : (s.prepare query flag).1.desk.open? = some _ := s.desk.open?_issue
  refine iff_of_true rfl (Desk.isPending_iff.mpr ?_)
  rw [hopen]
  exact nofun

theorem ne_loading_of_ended {s : Screen t} (h : s.status = .loaded ∨ s.status = .failed) :
    s.status ≠ .loading := by
  rcases h with h | h <;> rw [h] <;> decide

end Screen

variable [Text.Order] in
theorem Turn.take_tells (backend : Backend) {s : Screen t} (h : s.Tells) (turn : Turn) :
    (turn.take backend s).screen.Tells := by
  cases turn with
  | refuse e => exact h
  | stay => exact h
  | empty => exact .of_idle (Desk.open?_cancel _) nofun
  | search query flag =>
    obtain ⟨-, hidle, -, hstatus⟩ := Screen.runQuery_result (s := s) backend query flag
    refine .of_idle hidle (Screen.ne_loading_of_ended ?_)
    exact hstatus ▸ Status.ended _

namespace Session

variable {s : Session t}

section

variable [Text.Order]

theorem Sound.apply_ends (h : s.Sound) {slot : String} {o : Outcome t}
    {rest : List (String × Outcome t)} (htake : takeSlot slot s.outcomes = some (o, rest))
    (hopen : s.screen.desk.open? = some o.ticket) :
    (s.screen.apply o).2 = true ∧
      ((s.screen.apply o).1.status = .loaded ∨ (s.screen.apply o).1.status = .failed) ∧
      (s.screen.apply o).1.desk.open? = none := by
  have hr := h.ne_superseded htake hopen
  refine ⟨Screen.apply_of_open? hopen hr, ?_, ?_⟩
  · rw [Screen.status_apply hopen hr]
    exact Status.ended o.isOk
  · rw [Screen.desk_apply]
    exact Desk.open?_close h.single hopen

theorem step_tells (backend : Backend) (hs : s.Sound) (h : s.screen.Tells) {e : Event t}
    (he : e.isLoad = false) : (s.step backend e).1.screen.Tells := by
  have of_turn {turn : Turn} (hturn : e.turn? s.screen = some turn) :
      (s.step backend e).1.screen.Tells := by
    have hentered : (e.entered s.screen).Tells := by
      cases e <;> exact h
    rw [step_of_turn backend hturn]
    exact turn.take_tells backend hentered
  cases e with
  | query | criteria | loadSaved | typed | fields | bucket => exact of_turn rfl
  | prepare slot q flag => exact s.screen.prepare_tells q flag
  | run slot =>
    cases htake : takeSlot slot s.prepared with
    | none => rw [step_run_none backend htake]; exact h
    | some taken => rw [step_run backend htake]; exact h
  | apply slot =>
    cases htake : takeSlot slot s.outcomes with
    | none => rw [step_apply_none backend htake]; exact h
    | some taken =>
      rw [step_apply backend htake]
      by_cases hopen : s.screen.desk.open? = some taken.1.ticket
      · obtain ⟨-, hstatus, hidle⟩ := hs.apply_ends htake hopen
        exact .of_idle hidle (Screen.ne_loading_of_ended hstatus)
      · rw [Screen.apply_of_ne hopen]
        exact h
  | refreshSaved listing => cases listing <;> exact h
  | loadMaster listing => cases he
  | select | filterContaining | filterExactly | clearFilters | sort | goTo => exact h

theorem live_tells (hs : s.Sound) (h : s.screen.Tells) {moments : List (Moment t)}
    (he : ∀ m ∈ moments, m.event.isLoad = false) : (s.live moments).screen.Tells := by
  induction moments generalizing s with
  | nil => exact h
  | cons m moments ih =>
    obtain ⟨hfirst, hrest⟩ := List.forall_mem_cons.mp he
    exact ih (advance_sound hs m) (step_tells m.backend (hs.consulting m.details) h hfirst) hrest

/-- In every state that is reached without loading a snapshot, the status is loading exactly while
a search is in flight. The outcome of a search that found its ticket overtaken is never accepted by
the ticket; an outcome that is accepted is shown, the screen is then loaded or failed, and nothing
is in flight. A query that is run at once is always shown. -/
theorem loading_iff_pending (settings : ScreenSettings) (source : Source t)
    {moments : List (Moment t)} (he : ∀ m ∈ moments, m.event.isLoad = false) :
    let s := (start settings source).live moments
    (s.screen.status = .loading ↔ s.screen.isPending = true) ∧
    (∀ slot o rest, takeSlot slot s.outcomes = some (o, rest) →
      (o.result = .ok .superseded → (s.screen.desk.close o.ticket).2 = false) ∧
      ((s.screen.desk.close o.ticket).2 = true →
        (s.screen.apply o).2 = true ∧
        ((s.screen.apply o).1.status = .loaded ∨ (s.screen.apply o).1.status = .failed) ∧
        (s.screen.apply o).1.isPending = false)) ∧
    ∀ backend query flag, (s.screen.runQuery backend query flag).ok = true := by
  intro s
  have hstart := start_sound settings source
  have hs : s.Sound := live_sound hstart moments
  refine ⟨live_tells hstart (.of_idle rfl nofun) he, fun slot o rest htake => ⟨?_, ?_⟩, ?_⟩
  · intro hr
    have hopen : s.screen.desk.open? ≠ some o.ticket := fun hopen =>
      hs.ne_superseded htake hopen hr
    rw [Desk.close_of_ne hopen]
  · intro hclose
    have hopen : s.screen.desk.open? = some o.ticket := by
      by_contra hne
      rw [Desk.close_of_ne hne] at hclose
      cases hclose
    obtain ⟨hshown, hstatus, hidle⟩ := hs.apply_ends htake hopen
    exact ⟨hshown, hstatus, Screen.isPending_of_idle hidle⟩
  · intro backend query flag
    rw [Screen.runQuery_eq]

end

theorem loading_iff_pending_of_overtaken_search :
    let answered : Backend := fun query _ _ => .ok ⟨query, 0, []⟩
    let offline : Backend := fun _ _ _ => .error (.collaborator "offline")
    let moment (backend : Backend) (e : Event .key) : Moment .key := ⟨e, backend, fun _ _ => .ok []⟩
    let moments : List (Moment .key) := [moment answered (.query "productid:*2*" true),
      moment answered (.prepare "old" "productid:*1*" false),
      moment answered (.prepare "new" "productid:*2*" true), moment answered (.run "old"),
      moment offline (.run "new")]
    let s := (start (.usual .forecastElement) (.keys id)).live moments
    (∀ m ∈ moments, m.event.isLoad = false) ∧
    (s.screen.status = .loading ∧ s.screen.isPending = true) ∧
    (s.outcomes.map fun e => (e.1, (s.screen.desk.close e.2.ticket).2)) =
      [("new", true), ("old", false)] ∧
    ∀ o rest, takeSlot "new" s.outcomes = some (o, rest) →
      ((s.screen.apply o).1.status = .loaded ∨ (s.screen.apply o).1.status = .failed) ∧
        (s.screen.apply o).1.isPending = false := by
  intro answered offline moment moments s
  have he : ∀ m ∈ moments, m.event.isLoad = false := by
    simp [moments, moment, Event.isLoad]
  obtain ⟨htells, houtcomes, -⟩ :=
    loading_iff_pending (.usual .forecastElement) (.keys id) he
  have hclose : (s.outcomes.map fun e => (e.1, (s.screen.desk.close e.2.ticket).2)) =
      [("new", true), ("old", false)] := by
    decide
  refine ⟨he, ⟨htells.mpr (by decide), by decide⟩, hclose, fun o rest htake => ?_⟩
  have haccepted : (s.screen.desk.close o.ticket).2 = true := by
    cases htake
    decide
  exact ((houtcomes "new" o rest htake).2 haccepted).2

end Session

end PlanningSearch
