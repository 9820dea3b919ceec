import PlanningSearch.Proofs.Screen.Issued
import PlanningSearch.Proofs.Screen.Moments

/-!
What becomes of a selected saved search when the list is refreshed. A selection is a place in the
list. It stays at its place while the lists that the store answers are long enough, and is dropped
for good by the first one that is not; so after any number of refreshes it denotes whatever the
latest list has at that place. That is the search that was chosen as long as the store keeps it
there, and then loading it or switching the bucket asks for its query and no other.
-/

namespace PlanningSearch

variable {t : Table}

def SavedSearch.Same (x y : SavedSearch) : Prop := y.id = x.id ∧ y.query = x.query

instance (x y : SavedSearch) : Decidable (x.Same y) :=
  inferInstanceAs (Decidable (y.id = x.id ∧ y.query = x.query))

namespace Screen

def chosen? (s : Screen t) : Option SavedSearch := s.selected.bind fun i => s.saved[i]?

theorem selectedQuery_eq (s : Screen t) : s.selectedQuery = s.chosen?.map SavedSearch.query := rfl

/-- Nothing is selected, or the selection denotes this saved search. -/
def KeepsChoice (s : Screen t) (x : SavedSearch) : Prop :=
  s.selected = none ∨ ∃ y ∈ s.chosen?, x.Same y

instance (s : Screen t) (x : SavedSearch) : Decidable (s.KeepsChoice x) :=
  inferInstanceAs (Decidable (s.selected = none ∨ ∃ y ∈ s.chosen?, x.Same y))

theorem KeepsChoice.query_eq {s : Screen t} {x : SavedSearch} (h : s.KeepsChoice x)
    {query : String} (hquery : s.selectedQuery = some query) : query = x.query := by
  rw [selectedQuery_eq] at hquery
  obtain ⟨y, hy, rfl⟩ := Option.map_eq_some_iff.mp hquery
  rcases h with hnone | ⟨z, hz, hsame⟩
  · rw [chosen?, hnone] at hy
    cases hy
  · obtain rfl : z = y := Option.some.inj (hz.symm.trans hy)
    exact hsame.2

end Screen

namespace Event

def listing? : Event t → Option (List SavedSearch)
  | .refreshSaved (.ok saved) => some saved
  | _ => none

def selects : Event t → Bool
  | .select _ => true
  | _ => false

theorem listing?_of_keepsSelection {e : Event t} (h : e.keepsSelection = true) :
    e.listing? = none := by
  cases e <;> first | rfl | cases h

end Event

namespace Session

def listings (moments : List (Moment t)) : List (List SavedSearch) :=
  moments.filterMap fun m => m.event.listing?

theorem listings_concat (moments : List (Moment t)) (m : Moment t) :
    listings (moments ++ [m]) = listings moments ++ m.event.listing?.toList := by
  rw [listings, List.filterMap_append]
  cases h : m.event.listing? <;> simp [listings, h]

variable [Text.Order]

section Steps

variable (s : Session t) {m : Moment t}

theorem saved_advance :
    (s.advance m).1.screen.saved = m.event.listing?.getD s.screen.saved := by
  cases hkeeps : m.event.keepsSelection with
  | true =>
    rw [Event.listing?_of_keepsSelection hkeeps]
    exact (step_stays m.backend (s.consulting m.details) m.event).saved hkeeps
  | false =>
    obtain ⟨e, backend, details⟩ := m
    cases e with
    | refreshSaved listing => cases listing <;> rfl
    | select i => rfl
    | _ => cases hkeeps

variable {s} in
theorem selected_advance (hm : m.event.selects = false) {i : ℕ} :
    (s.advance m).1.screen.selected = some i ↔
      s.screen.selected = some i ∧ ∀ saved ∈ m.event.listing?, i < saved.length := by
  cases hkeeps : m.event.keepsSelection with
  | true =>
    have hstays := (step_stays m.backend (s.consulting m.details) m.event).selected hkeeps
    rw [Event.listing?_of_keepsSelection hkeeps, advance, hstays]
    simp [consulting]
  | false =>
    obtain ⟨e, backend, details⟩ := m
    cases e with
    | refreshSaved listing =>
      cases listing with
      | error err => simp [advance, step, consulting, Screen.refreshSaved, Event.listing?]
      | ok saved => simp [advance, step, consulting, Screen.refreshSaved, Event.listing?]
    | select i => cases hm
    | _ => cases hkeeps

end Steps

section Runs

variable (s : Session t) {moments : List (Moment t)}

theorem saved_live :
    (s.live moments).screen.saved = (listings moments).getLast?.getD s.screen.saved := by
  induction moments using List.reverseRecOn with
  | nil => rfl
  | append_singleton moments m ih =>
    rw [live_concat, saved_advance, listings_concat, ih]
    cases m.event.listing? <;> simp

theorem selected_live (h : ∀ m ∈ moments, m.event.selects = false) {i : ℕ} :
    (s.live moments).screen.selected = some i ↔
      s.screen.selected = some i ∧ ∀ saved ∈ listings moments, i < saved.length := by
  induction moments using List.reverseRecOn with
  | nil => simp [live, listings]
  | append_singleton moments m ih =>
    obtain ⟨hmoments, hm⟩ := List.forall_mem_append.mp h
    rw [live_concat, selected_advance (hm m List.mem_cons_self), ih hmoments, listings_concat,
      and_assoc, List.forall_mem_append]
    simp only [Option.mem_toList, Option.mem_def]

variable {s} {i : ℕ}

theorem dropped_live (hselected : s.screen.selected = some i)
    (h : ∀ m ∈ moments, m.event.selects = false) {saved : List SavedSearch}
    (hsaved : saved ∈ listings moments) (hshort : saved.length ≤ i) :
    (s.live moments).screen.selected = none := by
  refine Option.eq_none_iff_forall_ne_some.mpr fun j hj => ?_
  obtain ⟨hselected', hlong⟩ := (selected_live s h).mp hj
  obtain rfl : i = j := Option.some.inj (hselected.symm.trans hselected')
  exact absurd (hlong saved hsaved) (Nat.not_lt.mpr hshort)

theorem chosen?_live (hselected : s.screen.selected = some i)
    (h : ∀ m ∈ moments, m.event.selects = false)
    (hlong : ∀ saved ∈ listings moments, i < saved.length) :
    (s.live moments).screen.chosen? = ((listings moments).getLast?.getD s.screen.saved)[i]? := by
  rw [Screen.chosen?, (selected_live s h).mpr ⟨hselected, hlong⟩, saved_live]
  rfl

end Runs

end Session

def Request.query? : Request → Option String
  | .search query => some query
  | .detail _ _ => none

theorem Pending.issued_run (p : Pending t) (backend : Backend) (overtaken : Bool) :
    (p.run backend overtaken).2.filterMap Request.query? = [p.query] := by
  have hasks (found : List Key) : (p.source.asks p.bucket found).filterMap Request.query? = [] := by
    unfold Source.asks
    split
    · split <;> rfl
    · rfl
  simp only [run, resolve]
  split
  · rfl
  · split
    · rfl
    · split
      · rfl
      · exact congrArg (p.query :: ·) (hasks _)

variable [Text.Order] in
theorem Turn.issued_take (backend : Backend) (s : Screen t) (turn : Turn) :
    (turn.take backend s).asked.filterMap Request.query? = turn.query?.toList := by
  cases turn with
  | search query flag =>
    rw [take, Screen.runQuery_eq]
    exact Pending.issued_run _ backend false
  | _ => rfl

def Event.runsSelected : Event t → Bool
  | .loadSaved | .bucket _ => true
  | _ => false

theorem Event.turn?_of_runsSelected (s : Screen t) {e : Event t} (he : e.runsSelected = true) :
    ∃ turn, e.turn? s = some turn ∧ ∀ query ∈ turn.query?, s.selectedQuery = some query := by
  cases e with
  | loadSaved =>
    refine ⟨s.savedTurn, rfl, fun query hquery => ?_⟩
    unfold Screen.savedTurn at hquery
    split at hquery
    · cases hquery
    · rename_i saved hsaved
      split at hquery
      · cases hquery
      · cases hquery
        exact hsaved
  | bucket b =>
    refine ⟨s.bucketTurn, rfl, fun query hquery => ?_⟩
    cases hsaved : s.selectedQuery with
    | none =>
      rw [Screen.bucketTurn, hsaved] at hquery
      cases hquery
    | some saved =>
      rw [Screen.bucketTurn, hsaved] at hquery
      cases hquery
      rfl
  | _ => cases he

namespace Session

section

variable [Text.Order]

theorem issued_of_runsSelected (s : Session t) {m : Moment t} (hm : m.event.runsSelected = true) :
    ∃ query : Option String, (s.advance m).1.issued = s.issued ++ query.toList ∧
      ∀ q ∈ query, s.screen.selectedQuery = some q := by
  obtain ⟨turn, hturn, hquery⟩ :=
    m.event.turn?_of_runsSelected (s.consulting m.details).screen hm
  refine ⟨turn.query?, ?_, hquery⟩
  rw [advance, step_of_turn m.backend hturn]
  change (s.asked ++ _).filterMap Request.query? = s.asked.filterMap Request.query? ++ _
  rw [List.filterMap_append, Turn.issued_take]

/-- A screen denotes a saved search, and is then used in any way but to select another one. Each
list that a refresh brings takes the place of the old one, and the selection stays at its place or
is dropped. So nothing is selected, or the choice is kept, exactly when some list ended before that
place or the latest one has the same search there; a store that always keeps it there, however the
rest changes, keeps the choice. As long as the choice is kept, loading it and switching the bucket
ask for its query or for nothing. -/
theorem choice_kept_iff {s : Session t} {i : ℕ} {x : SavedSearch}
    (hselected : s.screen.selected = some i) (hlisted : s.screen.saved[i]? = some x)
    {moments : List (Moment t)} (hmoments : ∀ m ∈ moments, m.event.selects = false) :
    let s' := s.live moments
    let lists := listings moments
    (s'.screen.KeepsChoice x ↔ (∃ saved ∈ lists, saved.length ≤ i) ∨
      ∀ saved ∈ lists.getLast?, ∃ y ∈ saved[i]?, x.Same y) ∧
    ((∀ saved ∈ lists, ∀ y ∈ saved[i]?, x.Same y) → s'.screen.KeepsChoice x) ∧
    (s'.screen.KeepsChoice x → ∀ m, m.event.runsSelected = true → ∃ query : Option String,
      (s'.advance m).1.issued = s'.issued ++ query.toList ∧ ∀ q ∈ query, q = x.query) := by
  intro s' lists
  have hlong (hshort : ¬ ∃ saved ∈ lists, saved.length ≤ i) : ∀ saved ∈ lists, i < saved.length :=
    fun saved hsaved => Nat.lt_of_not_le fun hle => hshort ⟨saved, hsaved, hle⟩
  have hiff : s'.screen.KeepsChoice x ↔ (∃ saved ∈ lists, saved.length ≤ i) ∨
      ∀ saved ∈ lists.getLast?, ∃ y ∈ saved[i]?, x.Same y := by
    by_cases hshort : ∃ saved ∈ lists, saved.length ≤ i
    · obtain ⟨saved, hsaved, hlength⟩ := hshort
      have hdropped := dropped_live hselected hmoments hsaved hlength
      exact iff_of_true (.inl hdropped) (.inl ⟨saved, hsaved, hlength⟩)
    · have hstays : s'.screen.selected = some i :=
        (selected_live s hmoments).mpr ⟨hselected, hlong hshort⟩
      rw [or_iff_right hshort, Screen.KeepsChoice, hstays, or_iff_right (Option.some_ne_none i),
        chosen?_live hselected hmoments (hlong hshort)]
      cases hlast : lists.getLast? with
      | none =>
        -- no list came, so the screen still has the one that was chosen from
        simpa [lists, hlast, hlisted] using ⟨rfl, rfl⟩
      | some saved => simp
  refine ⟨hiff, fun hsame => hiff.mpr ?_, fun hkept m hm => ?_⟩
  · by_cases hshort : ∃ saved ∈ lists, saved.length ≤ i
    · exact .inl hshort
    · refine .inr fun saved hlast => ?_
      have hsaved : saved ∈ lists := List.mem_of_getLast? hlast
      have hentry := List.getElem?_eq_getElem (hlong hshort saved hsaved)
      exact ⟨_, hentry, hsame saved hsaved _ hentry⟩
  · obtain ⟨query, hissued, hquery⟩ := issued_of_runsSelected s' hm
    exact ⟨query, hissued, fun q hq => hkept.query_eq (hquery q hq)⟩

end

theorem choice_kept_iff_of_growing_list :
    let entry (id : Int) (query : String) : SavedSearch := ⟨some id, query, query, none⟩
    let south := entry 2 "locationid:*S*"
    let moment (e : Event .history) : Moment .history :=
      ⟨e, fun _ _ _ => .error (.collaborator "offline"), fun _ _ => .ok []⟩
    let s := (start (.usual .history) (.detail fun _ _ => .ok [])).live
      [moment (.refreshSaved (.ok [entry 1 "locationid:*N*", south])), moment (.select (some 1))]
    let moments := [moment (.refreshSaved (.ok [entry 3 "locationid:*E*", south, entry 1 ""])),
      moment (.bucket .weekly), moment (.refreshSaved (.error (.collaborator "offline")))]
    let s' := s.live moments
    s.screen.selected = some 1 ∧ s.screen.saved[1]? = some south ∧
    (∀ m ∈ moments, m.event.selects = false) ∧ s'.screen.KeepsChoice south ∧
    ∃ query : Option String, (s'.advance (moment .loadSaved)).1.issued =
      s'.issued ++ query.toList ∧ ∀ q ∈ query, q = "locationid:*S*" := by
  intro entry south moment s moments s'
  have hmoments : ∀ m ∈ moments, m.event.selects = false := by simp [moments, moment, Event.selects]
  obtain ⟨-, hkeeps, hissued⟩ := choice_kept_iff (s := s) (i := 1) (x := south) rfl rfl hmoments
  have hkept : s'.screen.KeepsChoice south := by
    refine hkeeps fun saved hsaved y hy => ?_
    obtain rfl : saved = [entry 3 "locationid:*E*", south, entry 1 ""] := by
      simpa [listings, moments, moment, Event.listing?] using hsaved
    obtain rfl : south = y := Option.some.inj hy
    exact ⟨rfl, rfl⟩
  exact ⟨rfl, rfl, hmoments, hkept, hissued hkept (moment .loadSaved) rfl⟩

/-- The store answers its two searches the other way round. The selection stays at its place, and
loading it or switching the bucket asks for the query of the other search. -/
theorem choice_swapped_by_reordered_list :
    let entry (id : Int) (query : String) : SavedSearch := ⟨some id, query, query, none⟩
    let north := entry 1 "locationid:*N*"
    let south := entry 2 "locationid:*S*"
    let moment (e : Event .history) : Moment .history :=
      ⟨e, fun _ _ _ => .error (.collaborator "offline"), fun _ _ => .ok []⟩
    let s := (start (.usual .history) (.detail fun _ _ => .ok [])).live
      [moment (.refreshSaved (.ok [north, south])), moment (.select (some 0))]
    let s' := s.live [moment (.refreshSaved (.ok [south, north]))]
    s.screen.chosen? = some north ∧ s'.screen.chosen? = some south ∧
    ¬ s'.screen.KeepsChoice north ∧
    (s'.advance (moment .loadSaved)).1.issued = [south.query] ∧
    (s'.advance (moment (.bucket .weekly))).1.issued = [south.query] := by
  decide

end Session

end PlanningSearch
