import PlanningSearch.Proofs.Builder
import PlanningSearch.Proofs.Screen.Issued

/-!
Searches that were authored are replayed verbatim. A selection is a place in the list of saved
searches, and a store only grows at its end, so the place keeps denoting the same search however
many more are saved and however often the list is refreshed. Loading it asks for the query of the
builder, which applies to the domain of each field that the builder used.
-/

namespace PlanningSearch

variable {t : Table}

structure Shared (t : Table) where
  store : SavedSearches
  session : Session t

/-- What goes on once a search is selected: builders and others save further searches into the
store, the screen refreshes its list from it, and is used in other ways. -/
inductive Activity (t : Table) where
  | save (b : Builder) (now : Instant) (name : String)
  | create (now : Instant) (name query : String)
  | refresh
  | use (e : Event t) (keeps : e.keepsSelection = true)

theorem SavedSearches.saved_of_list {store : SavedSearches} {saved : List SavedSearch}
    (h : store.list = .ok saved) : store.saved = saved := by
  unfold list failing at h
  split at h <;> cases h
  rfl

section

variable [Text.Order]

namespace Shared

def stored (x : Shared t) (saved : Except SearchError (SavedSearches × SavedSearch)) : Shared t :=
  { x with store := (saved.toOption.map Prod.fst).getD x.store }

def step (backend : Backend) (x : Shared t) : Activity t → Shared t
  | .save b now name => x.stored (b.save x.store now name)
  | .create now name query => x.stored (x.store.create now name query)
  | .refresh => { x with session := (x.session.step backend (.refreshSaved x.store.list)).1 }
  | .use e _ => { x with session := (x.session.step backend e).1 }

def run (backend : Backend) (x : Shared t) (activities : List (Activity t)) : Shared t :=
  activities.foldl (step backend) x

structure Denotes (d : Domain) (i : Nat) (entry : SavedSearch) (x : Shared t) : Prop where
  stored : x.store.saved[i]? = some entry
  listed : x.session.screen.saved[i]? = some entry
  selected : x.session.screen.selected = some i
  domain : x.session.screen.source.domain? = some d

variable (backend : Backend) {x : Shared t} {d : Domain} {i : Nat} {entry : SavedSearch}

theorem select_denotes {s : Session t} (hs : s.screen.source.domain? = some d)
    (store : SavedSearches) (hstore : store.failure = none)
    (hentry : store.saved[i]? = some entry) :
    Denotes d i entry ⟨store, s.run backend [.refreshSaved store.list, .select (some i)]⟩ := by
  have hlist : store.list = .ok store.saved := by
    rw [SavedSearches.list, hstore]
    rfl
  rw [hlist]
  exact ⟨hentry, hentry, rfl, hs⟩

omit [Text.Order] in
theorem stored_denotes (h : x.Denotes d i entry)
    {saved : Except SearchError (SavedSearches × SavedSearch)}
    (hsaved : ∀ r, saved = .ok r → r.1.saved = x.store.saved ++ [r.2]) :
    (x.stored saved).Denotes d i entry := by
  refine ⟨?_, h.listed, h.selected, h.domain⟩
  cases saved with
  | error e => exact h.stored
  | ok r =>
    have hlt : i < x.store.saved.length := (List.getElem?_eq_some_iff.mp h.stored).1
    change r.1.saved[i]? = some entry
    rw [hsaved r rfl, List.getElem?_append_left hlt]
    exact h.stored

theorem refresh_denotes (h : x.Denotes d i entry) :
    (x.step backend .refresh).Denotes d i entry := by
  cases hlist : x.store.list with
  | error e =>
    simp only [step, hlist]
    exact ⟨h.stored, h.listed, h.selected, h.domain⟩
  | ok saved =>
    obtain rfl : x.store.saved = saved := SavedSearches.saved_of_list hlist
    have hlt : i < x.store.saved.length := (List.getElem?_eq_some_iff.mp h.stored).1
    simp only [step, hlist]
    refine ⟨h.stored, h.stored, ?_, h.domain⟩
    change x.session.screen.selected.filter (fun i => i < x.store.saved.length) = some i
    simp [h.selected, hlt]

theorem use_denotes (h : x.Denotes d i entry) {e : Event t} (he : e.keepsSelection = true) :
    (x.step backend (.use e he)).Denotes d i entry := by
  have hstays := Session.step_stays backend x.session e
  refine ⟨h.stored, ?_, ?_, ?_⟩
  · exact (congrArg (·[i]?) (hstays.saved he)).trans h.listed
  · exact (hstays.selected he).trans h.selected
  · exact (Session.domain?_step backend x.session e).trans h.domain

theorem run_denotes (h : x.Denotes d i entry) (activities : List (Activity t)) :
    (x.run backend activities).Denotes d i entry := by
  induction activities generalizing x with
  | nil => exact h
  | cons a activities ih =>
    refine ih ?_
    cases a with
    | save b now name => exact stored_denotes h fun _ => Builder.saved_of_save
    | create now name query => exact stored_denotes h fun _ => SavedSearches.saved_of_create
    | refresh => exact refresh_denotes backend h
    | use e keeps => exact use_denotes backend h keeps

theorem Denotes.replays (h : x.Denotes d i entry) (happlies : d.appliesTo entry.query = true) :
    x.session.screen.selectedQuery = some entry.query ∧
    (x.session.step backend .loadSaved).2 = .flag true ∧
    (x.session.step backend .loadSaved).1.asked =
      x.session.asked ++ [.search entry.query] := by
  have hselected : x.session.screen.selectedQuery = some entry.query := by
    simp [Screen.selectedQuery, h.selected, h.listed]
  have hturn : (Event.loadSaved : Event t).turn? x.session.screen =
      some (.search entry.query x.session.screen.settings.flagEmptySaved) := by
    rw [Event.turn?, Screen.savedTurn_of_selected h.domain hselected, if_pos happlies]
  have hsource := Source.isDetail_of_domain? h.domain
  refine ⟨hselected, ?_, ?_⟩
  · rw [Session.step_of_turn backend hturn, Turn.take, Screen.runQuery_eq]
    rfl
  · rw [Session.asked_step_of_turn backend hsource hturn]
    rfl

end Shared

/-- A search that a builder saves with a field of a domain is run on the domain's master screen
exactly as the builder wrote it. The screen may have been used before in any way; it refreshes its
list, selects the new entry and loads it. From then on the selection denotes that query and is
never refused, whatever is saved into the same store, however often the list is refreshed, and
whatever else the screen is used for. -/
theorem saved_search_replays (backend : Backend) (settings : ScreenSettings) {d : Domain}
    (first : List (Row d.table)) (before : List (Event d.table)) (actions : List Builder.Action)
    (hcriterion : ∃ c ∈ (Builder.new.run actions).criteria, c.field ∈ d.tokens)
    (store : SavedSearches) (hstore : store.failure = none) (now : Instant) (name : String)
    (hname : Text.blank name = false) :
    let b := Builder.new.run actions
    let s := (Session.start settings (.master d first)).run backend before
    ∃ query store' entry, b.query = some query ∧ entry.query = query ∧
      b.save store now name = .ok (store', entry) ∧
      ∀ later : List (Activity d.table),
        let selected := s.run backend
          [.refreshSaved store'.list, .select (some store.saved.length)]
        let x := Shared.run backend ⟨store', selected⟩ later
        x.session.screen.saved[store.saved.length]? = some entry ∧
        x.session.screen.selectedQuery = some query ∧
        (x.session.step backend .loadSaved).2 = .flag true ∧
        (x.session.step backend .loadSaved).1.asked = x.session.asked ++ [.search query] := by
  intro b s
  have hsound : b.Sound := Builder.run_sound Builder.new_sound actions
  obtain ⟨query, hquery, happlies⟩ := hsound.exists_query hcriterion
  have hdomain : s.screen.source.domain? = some d := by
    rw [(Session.run_settings_source backend settings (.master d first) before).2]
    exact Source.domain?_withRows _ _
  let added := store.add now (Text.trim name) query
  have hentry : added.1.saved[store.saved.length]? = some added.2 := List.getElem?_concat_length
  have hselect := Shared.select_denotes backend hdomain added.1 hstore hentry
  refine ⟨query, added.1, added.2, hquery, rfl, Builder.save_of_query hquery hname hstore, ?_⟩
  intro later selected x
  have hx : x.Denotes d store.saved.length added.2 := Shared.run_denotes backend hselect later
  exact ⟨hx.listed, hx.replays backend happlies⟩

end

theorem saved_search_replays_of_two_domains :
    let actions : List Builder.Action :=
      [.setField "IsNew", .add " Yes ", .setDomain .location, .setField "geography",
        .setNextOperator .or, .add "North: \"A\"", .add ""]
    let backend : Backend := fun _ _ _ => .error (.collaborator "offline")
    let now : Instant := ⟨0, 0⟩
    let s := Session.start (.usual .location) (.master .location [])
    (∃ c ∈ (Builder.new.run actions).criteria, c.field ∈ Domain.location.tokens) ∧
    (Builder.new.run actions).query = some "isnew:*Yes* OR geography:\"*North: \\\"A\\\"*\"" ∧
    ∃ query store' entry, (Builder.new.run actions).query = some query ∧
      (Builder.new.run actions).save {} now " mine " = .ok (store', entry) ∧
      ∀ other : Builder,
        let x := Shared.run backend
          ⟨store', s.run backend [.refreshSaved store'.list, .select (some 0)]⟩
          [.use .loadSaved rfl, .save other now "theirs", .refresh]
        (x.session.step backend .loadSaved).1.asked = x.session.asked ++ [.search query] := by
  intro actions backend now s
  have hcriterion : ∃ c ∈ (Builder.new.run actions).criteria, c.field ∈ Domain.location.tokens := by
    decide
  obtain ⟨query, store', entry, hquery, -, hsave, hreplays⟩ :=
    saved_search_replays backend (.usual .location) [] [] actions hcriterion {} rfl now " mine "
      (by decide)
  exact ⟨hcriterion, by decide, query, store', entry, hquery, hsave,
    fun other => (hreplays [.use .loadSaved rfl, .save other now "theirs", .refresh]).2.2.2⟩

end PlanningSearch
