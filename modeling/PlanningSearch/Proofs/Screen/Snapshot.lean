import PlanningSearch.Proofs.History
import PlanningSearch.Proofs.Screen.InFlight
import PlanningSearch.Services

/-!
The rows of a master screen and its snapshot. A search keeps the snapshot that was current when it
was prepared, and loading a new snapshot does not overtake it. So the rows shown are a subsequence
of a snapshot that was current at some point of the run, and each load since that point found a
search pending; when snapshots are loaded only while no search is pending, they are a subsequence
of the current one.
-/

namespace PlanningSearch

open Ticket

variable {t : Table}

def Event.loaded? : Event t → Option (List (Row t))
  | .loadMaster (.ok rows) => some rows
  | _ => none

def Event.keepsSelection : Event t → Bool
  | .refreshSaved _ | .select _ => false
  | _ => true

theorem Event.loaded?_eq_some {e : Event t} {rows : List (Row t)} :
    e.loaded? = some rows ↔ e = .loadMaster (.ok rows) := by
  constructor
  · intro h
    unfold loaded? at h
    split at h
    · cases h
      rfl
    · cases h
  · rintro rfl
    rfl

namespace Source

theorem withRows_rows (s : Source t) : s.withRows s.rows = s := by
  cases s <;> rfl

theorem withRows_withRows (s : Source t) (old new : List (Row t)) :
    (s.withRows old).withRows new = s.withRows new := by
  cases s <;> rfl

theorem withRows_rows_self (s : Source t) (rows : List (Row t)) :
    s.withRows (s.withRows rows).rows = s.withRows rows := by
  cases s <;> rfl

theorem resolve_master_sublist {d : Domain} {rows shown : List (Row d.table)} {b : Bucket}
    {found : List Key} (h : (master d rows).resolve b found = .ok shown) : shown.Sublist rows := by
  cases h
  exact List.filter_sublist

end Source

theorem Pending.resolve_master_sublist {d : Domain} {rows shown : List (Row d.table)}
    {p : Pending d.table} (hp : p.source = .master d rows) {backend : Backend} {overtaken : Bool}
    (h : (p.resolve backend overtaken).1 = .ok (.rows shown)) : shown.Sublist rows := by
  obtain ⟨found, -, -, hrows⟩ := resolve_eq_rows h
  rw [hp] at hrows
  exact Source.resolve_master_sublist hrows

namespace Session

variable (backend : Backend)

def lastLoaded (first : List (Row t)) (events : List (Event t)) : List (Row t) :=
  (events.filterMap Event.loaded?).getLast?.getD first

theorem lastLoaded_concat (first : List (Row t)) (events : List (Event t)) (e : Event t) :
    lastLoaded first (events ++ [e]) = e.loaded?.getD (lastLoaded first events) := by
  unfold lastLoaded
  rw [List.filterMap_append]
  cases h : e.loaded? with
  | none => simp [h]
  | some rows => simp [h]

theorem lastLoaded_append_of_none {first : List (Row t)} {before after : List (Event t)}
    (h : ∀ e ∈ after, e.loaded? = none) :
    lastLoaded first (before ++ after) = lastLoaded first before := by
  unfold lastLoaded
  rw [List.filterMap_append, List.filterMap_eq_nil_iff.mpr h, List.append_nil]

structure Stays (s s' : Session t) (e : Event t) : Prop where
  settings : s'.screen.settings = s.screen.settings
  source : s'.screen.source = (e.loaded?.map s.screen.source.withRows).getD s.screen.source
  saved : e.keepsSelection = true → s'.screen.saved = s.screen.saved
  selected : e.keepsSelection = true → s'.screen.selected = s.screen.selected

theorem Stays.of_keeps {s s' : Session t} {e : Event t} (h : s.screen.Keeps s'.screen)
    (hnone : e.loaded? = none) : Stays s s' e where
  settings := h.settings
  source := by
    rw [hnone]
    exact h.source
  saved _ := h.saved
  selected _ := h.selected

section

variable [Text.Order]

theorem step_stays (s : Session t) (e : Event t) : Stays s (s.step backend e).1 e := by
  have of_turn {turn : Turn} (h : e.turn? s.screen = some turn) (hnone : e.loaded? = none) :
      Stays s (s.step backend e).1 e := by
    have hkeeps := turn.take_keeps backend (e.entered s.screen)
    rw [step_of_turn backend h]
    refine ⟨hkeeps.settings.trans (e.entered_settings _), ?_, fun _ => ?_, fun _ => ?_⟩
    · rw [hnone]
      exact hkeeps.source.trans (e.entered_source _)
    · exact hkeeps.saved.trans (e.entered_saved _)
    · exact hkeeps.selected.trans (e.entered_selected _)
  cases e with
  | query | criteria | loadSaved | typed | fields | bucket => exact of_turn rfl rfl
  | run slot =>
    cases htake : takeSlot slot s.prepared with
    | none => rw [step_run_none backend htake]; exact .of_keeps ⟨rfl, rfl, rfl, rfl, rfl⟩ rfl
    | some taken => rw [step_run backend htake]; exact .of_keeps ⟨rfl, rfl, rfl, rfl, rfl⟩ rfl
  | apply slot =>
    cases htake : takeSlot slot s.outcomes with
    | none => rw [step_apply_none backend htake]; exact .of_keeps ⟨rfl, rfl, rfl, rfl, rfl⟩ rfl
    | some taken => rw [step_apply backend htake]; exact .of_keeps (s.screen.apply_keeps taken.1) rfl
  | refreshSaved listing => cases listing <;> exact ⟨rfl, rfl, nofun, nofun⟩
  | select i => exact ⟨rfl, rfl, nofun, nofun⟩
  | loadMaster listing => cases listing <;> exact ⟨rfl, rfl, fun _ => rfl, fun _ => rfl⟩
  | prepare | filterContaining | filterExactly | clearFilters | sort | goTo =>
    exact .of_keeps ⟨rfl, rfl, rfl, rfl, rfl⟩ rfl

theorem run_concat (s : Session t) (events : List (Event t)) (e : Event t) :
    s.run backend (events ++ [e]) = ((s.run backend events).step backend e).1 :=
  List.foldl_append

theorem run_settings_source (settings : ScreenSettings) (source : Source t)
    (events : List (Event t)) :
    let s := (start settings source).run backend events
    s.screen.settings = settings ∧
      s.screen.source = source.withRows (lastLoaded source.rows events) := by
  induction events using List.reverseRecOn with
  | nil => exact ⟨rfl, source.withRows_rows.symm⟩
  | append_singleton events e ih =>
    have hstays := step_stays backend ((start settings source).run backend events) e
    rw [run_concat, lastLoaded_concat]
    refine ⟨hstays.settings.trans ih.1, hstays.source.trans ?_⟩
    rw [ih.2]
    cases e.loaded? with
    | none => rfl
    | some rows => exact source.withRows_withRows _ _

section Traced

variable {d : Domain} {held held' : List (Row d.table) → Prop} {s : Session d.table}

/-- The rows shown, and those that a search in flight may still bring, are subsequences of
snapshots of a kind. -/
structure Traced (held : List (Row d.table) → Prop) (s : Session d.table) : Prop where
  current : ∃ rows, held rows ∧ s.screen.source = .master d rows
  shown : ∃ rows, held rows ∧ s.screen.view.all.Sublist rows
  prepared : ∀ e ∈ s.prepared, s.screen.desk.open? = some e.2.ticket →
    ∃ rows, held rows ∧ e.2.source = .master d rows
  outcomes : ∀ e ∈ s.outcomes, s.screen.desk.open? = some e.2.ticket →
    ∀ shown, e.2.result = .ok (.rows shown) → ∃ rows, held rows ∧ shown.Sublist rows

omit [Text.Order] in
theorem Traced.mono (h : s.Traced held) (himp : ∀ rows, held rows → held' rows) :
    s.Traced held' where
  current := h.current.imp fun rows hr => ⟨himp rows hr.1, hr.2⟩
  shown := h.shown.imp fun rows hr => ⟨himp rows hr.1, hr.2⟩
  prepared e he hopen := (h.prepared e he hopen).imp fun rows hr => ⟨himp rows hr.1, hr.2⟩
  outcomes e he hopen shown hs :=
    (h.outcomes e he hopen shown hs).imp fun rows hr => ⟨himp rows hr.1, hr.2⟩

omit [Text.Order] in
theorem Traced.of_same {s' : Session d.table} (h : s.Traced held)
    (hsource : s'.screen.source = s.screen.source) (hall : s'.screen.view.all = s.screen.view.all)
    (hdesk : s'.screen.desk = s.screen.desk) (hprepared : s'.prepared = s.prepared)
    (houtcomes : s'.outcomes = s.outcomes) : s'.Traced held where
  current := hsource ▸ h.current
  shown := hall ▸ h.shown
  prepared := hprepared ▸ hdesk ▸ h.prepared
  outcomes := houtcomes ▸ hdesk ▸ h.outcomes

omit [Text.Order] in
theorem Traced.of_idle {s' : Session d.table} (hidle : s'.screen.desk.open? = none)
    (hcurrent : ∃ rows, held rows ∧ s'.screen.source = .master d rows)
    (hshown : ∃ rows, held rows ∧ s'.screen.view.all.Sublist rows) : s'.Traced held where
  current := hcurrent
  shown := hshown
  prepared _ _ hopen := absurd (hidle.symm.trans hopen) nofun
  outcomes _ _ hopen := absurd (hidle.symm.trans hopen) nofun

theorem showing_traced {v : View d.table} (hv : ∃ rows, held rows ∧ v.all.Sublist rows)
    {r : Except SearchError (Resolution d.table)}
    (hr : ∀ shown, r = .ok (.rows shown) → ∃ rows, held rows ∧ shown.Sublist rows) :
    ∃ rows, held rows ∧ (v.showing r).all.Sublist rows := by
  rcases r with e | shown | _ | _
  · exact hv
  · exact hr shown rfl
  · obtain ⟨rows, hheld, -⟩ := hv
    exact ⟨rows, hheld, List.nil_sublist rows⟩
  · exact hv

theorem turn_traced (h : s.Traced held) {e : Event d.table} {turn : Turn}
    (hturn : e.turn? s.screen = some turn) : (s.step backend e).1.Traced held := by
  have hsource := e.entered_source s.screen
  have hall := congrArg View.all (e.entered_view s.screen)
  have hdesk := e.entered_desk s.screen
  obtain ⟨rows, hheld, hmaster⟩ := h.current
  rw [step_of_turn backend hturn]
  cases turn with
  | refuse err => exact h.of_same hsource hall hdesk rfl rfl
  | stay => exact h.of_same hsource hall hdesk rfl rfl
  | empty =>
    exact .of_idle (Desk.open?_cancel _) ⟨rows, hheld, hsource.trans hmaster⟩
      ⟨rows, hheld, List.nil_sublist rows⟩
  | search query flag =>
    obtain ⟨hkeeps, hidle, hshown, -⟩ :=
      Screen.runQuery_result (s := e.entered s.screen) backend query flag
    refine .of_idle hidle ⟨rows, hheld, (hkeeps.source.trans hsource).trans hmaster⟩ ?_
    change ∃ rows, held rows ∧ (Screen.runQuery _ backend query flag).screen.view.all.Sublist rows
    rw [hshown, e.entered_view]
    refine showing_traced h.shown fun shown hresult => ⟨rows, hheld, ?_⟩
    exact Pending.resolve_master_sublist (hsource.trans hmaster) hresult

theorem prepare_traced (h : s.Traced held) (hs : s.Sound) (slot query : String) (flag : Bool) :
    (s.step backend (.prepare slot query flag)).1.Traced held := by
  refine ⟨h.current, h.shown, fun e he hticket => ?_, fun e he hticket => ?_⟩
  · rcases mem_putSlot he with rfl | ⟨hmem, -⟩
    · exact h.current
    · exact absurd hticket (Desk.open?_issue_ne (hs.prepared e hmem))
  · exact absurd hticket (Desk.open?_issue_ne (hs.outcomes e he))

theorem run_traced (h : s.Traced held) (slot : String) :
    (s.step backend (.run slot)).1.Traced held := by
  cases htake : takeSlot slot s.prepared with
  | none =>
    rw [step_run_none backend htake]
    exact h
  | some taken =>
    obtain ⟨p, rest⟩ := taken
    rw [step_run backend htake]
    refine ⟨h.current, h.shown, fun e he => h.prepared e (mem_of_mem_rest htake he).1, ?_⟩
    intro e he hopen shown hresult
    rcases mem_putSlot he with rfl | ⟨hmem, -⟩
    · obtain ⟨rows, hheld, hp⟩ := h.prepared _ (takeSlot_eq_some htake).1 hopen
      exact ⟨rows, hheld, Pending.resolve_master_sublist hp hresult⟩
    · exact h.outcomes e hmem hopen shown hresult

theorem apply_traced (h : s.Traced held) (hs : s.Sound) (slot : String) :
    (s.step backend (.apply slot)).1.Traced held := by
  cases htake : takeSlot slot s.outcomes with
  | none =>
    rw [step_apply_none backend htake]
    exact h
  | some taken =>
    obtain ⟨o, rest⟩ := taken
    rw [step_apply backend htake]
    by_cases hopen : s.screen.desk.open? = some o.ticket
    · refine .of_idle ?_ ?_ ?_
      · exact (congrArg Desk.open? (s.screen.desk_apply o)).trans (Desk.open?_close hs.single hopen)
      · exact (s.screen.apply_keeps o).source ▸ h.current
      · change ∃ rows, held rows ∧ (s.screen.apply o).1.view.all.Sublist rows
        rw [Screen.view_apply hopen]
        exact showing_traced h.shown (h.outcomes _ (takeSlot_eq_some htake).1 hopen)
    · rw [Screen.apply_of_ne hopen]
      exact ⟨h.current, h.shown, h.prepared,
        fun e he => h.outcomes e (mem_of_mem_rest htake he).1⟩

theorem loadMaster_traced (h : s.Traced held)
    (hkeep : s.screen.desk.open? ≠ none → ∀ rows, held rows → held' rows)
    {rows : List (Row d.table)} (hnew : held' rows) :
    (s.step backend (.loadMaster (.ok rows))).1.Traced held' where
  current := by
    obtain ⟨old, -, hmaster⟩ := h.current
    exact ⟨rows, hnew, congrArg (Source.withRows · rows) hmaster⟩
  shown := ⟨rows, hnew, List.nil_sublist rows⟩
  prepared e he hopen := by
    refine (h.prepared e he hopen).imp fun old hr => ⟨hkeep ?_ old hr.1, hr.2⟩
    exact fun hidle => nomatch hidle.symm.trans hopen
  outcomes e he hopen shown hs := by
    refine (h.outcomes e he hopen shown hs).imp fun old hr => ⟨hkeep ?_ old hr.1, hr.2⟩
    exact fun hidle => nomatch hidle.symm.trans hopen

theorem step_traced (h : s.Traced held) (hs : s.Sound) {e : Event d.table}
    (he : e.loaded? = none) : (s.step backend e).1.Traced held := by
  cases e with
  | query | criteria | loadSaved | typed | fields | bucket => exact turn_traced backend h rfl
  | prepare slot q flag => exact prepare_traced backend h hs slot q flag
  | run slot => exact run_traced backend h slot
  | apply slot => exact apply_traced backend h hs slot
  | refreshSaved listing => cases listing <;> exact h.of_same rfl rfl rfl rfl rfl
  | select i => exact h.of_same rfl rfl rfl rfl rfl
  | filterContaining | filterExactly | clearFilters | goTo => exact h.of_same rfl rfl rfl rfl rfl
  | sort column =>
    refine h.of_same rfl ?_ rfl rfl rfl
    simp only [step, withView, View.sortBy]
    split <;> rfl
  | loadMaster listing =>
    cases listing with
    | error err => exact h.of_same rfl rfl rfl rfl rfl
    | ok rows => cases he

end Traced

/-- The snapshot was current at some point of the run, and each load since then found a search
pending. -/
def HeldSince (s₀ : Session t) (events : List (Event t)) (rows : List (Row t)) : Prop :=
  ∃ before after, events = before ++ after ∧ lastLoaded s₀.screen.source.rows before = rows ∧
    ∀ mid new rest, after = mid ++ .loadMaster (.ok new) :: rest →
      (s₀.run backend (before ++ mid)).screen.isPending = true

theorem heldSince_now (s₀ : Session t) (events : List (Event t)) :
    HeldSince backend s₀ events (lastLoaded s₀.screen.source.rows events) :=
  ⟨events, [], (List.append_nil events).symm, rfl, fun mid _ _ h => by simp at h⟩

theorem HeldSince.concat {s₀ : Session t} {events : List (Event t)} {rows : List (Row t)}
    (h : HeldSince backend s₀ events rows) {e : Event t}
    (he : e.loaded? = none ∨ (s₀.run backend events).screen.isPending = true) :
    HeldSince backend s₀ (events ++ [e]) rows := by
  obtain ⟨before, after, rfl, hrows, hpending⟩ := h
  refine ⟨before, after ++ [e], List.append_assoc .., hrows, fun mid new rest hsplit => ?_⟩
  rcases split_concat hsplit with ⟨rfl, rfl⟩ | ⟨rest, hafter⟩
  · exact he.resolve_left (Option.some_ne_none new)
  · exact hpending mid new rest hafter

theorem HeldSince.eq_lastLoaded {s₀ : Session t} {events : List (Event t)} {rows : List (Row t)}
    (h : HeldSince backend s₀ events rows)
    (hidle : ∀ before new after, events = before ++ .loadMaster (.ok new) :: after →
      (s₀.run backend before).screen.isPending = false) :
    rows = lastLoaded s₀.screen.source.rows events := by
  obtain ⟨before, after, rfl, rfl, hpending⟩ := h
  refine (lastLoaded_append_of_none fun e he => ?_).symm
  obtain ⟨mid, rest, rfl⟩ := List.append_of_mem he
  cases hload : e.loaded? with
  | none => rfl
  | some new =>
    obtain rfl := Event.loaded?_eq_some.mp hload
    have hfalse := hidle (before ++ mid) new rest (List.append_assoc ..).symm
    rw [hpending mid new rest rfl] at hfalse
    cases hfalse

theorem traced_run (settings : ScreenSettings) {d : Domain} (first : List (Row d.table))
    (events : List (Event d.table)) :
    let s₀ := start settings (Source.master d first)
    (s₀.run backend events).Traced (HeldSince backend s₀ events) := by
  intro s₀
  induction events using List.reverseRecOn with
  | nil =>
    have hnow := heldSince_now backend s₀ []
    refine ⟨⟨first, hnow, rfl⟩, ⟨first, hnow, List.nil_sublist first⟩, ?_, ?_⟩
    · exact fun e he => absurd he List.not_mem_nil
    · exact fun e he => absurd he List.not_mem_nil
  | append_singleton events e ih =>
    have hsound := sound_run backend (start_sound settings (Source.master d first)) events
    rw [run_concat]
    cases hload : e.loaded? with
    | none =>
      refine (step_traced backend ih hsound hload).mono fun rows hheld => ?_
      exact hheld.concat backend (.inl hload)
    | some rows =>
      obtain rfl := Event.loaded?_eq_some.mp hload
      refine loadMaster_traced backend ih (fun hopen old hheld => hheld.concat backend (.inr ?_)) ?_
      · exact Desk.isPending_iff.mpr hopen
      · have hnow := heldSince_now backend s₀ (events ++ [.loadMaster (.ok rows)])
        rwa [lastLoaded_concat] at hnow

/-- The rows that a master screen shows are a subsequence of the snapshot that was current when
their search was prepared. That snapshot may have been replaced since, but only while the search
was pending; if no snapshot is loaded while a search is pending, the rows shown are a subsequence
of the current snapshot, which is the one loaded last. -/
theorem shown_sublist_snapshot (settings : ScreenSettings) {d : Domain}
    (first : List (Row d.table)) (events : List (Event d.table)) :
    let s₀ := start settings (Source.master d first)
    let s := s₀.run backend events
    s.screen.source.rows = lastLoaded first events ∧
    (∃ before after, events = before ++ after ∧
      s.screen.view.all.Sublist (lastLoaded first before) ∧
      ∀ mid rows rest, after = mid ++ .loadMaster (.ok rows) :: rest →
        (s₀.run backend (before ++ mid)).screen.isPending = true) ∧
    ((∀ before rows after, events = before ++ .loadMaster (.ok rows) :: after →
        (s₀.run backend before).screen.isPending = false) →
      s.screen.view.all.Sublist s.screen.source.rows) := by
  intro s₀ s
  have hsource : s.screen.source.rows = lastLoaded first events :=
    congrArg Source.rows (run_settings_source backend settings (Source.master d first) events).2
  obtain ⟨rows, hheld, hsub⟩ := (traced_run backend settings first events).shown
  refine ⟨hsource, ?_, fun hidle => ?_⟩
  · obtain ⟨before, after, heq, rfl, hpending⟩ := hheld
    exact ⟨before, after, heq, hsub, hpending⟩
  · have hrows : rows = lastLoaded first events := hheld.eq_lastLoaded backend hidle
    rw [hsource, ← hrows]
    exact hsub

end

theorem shown_sublist_snapshot_of_idle_loads :
    let bread : Row (Domain.table .product) := ⟨#v["P1", "Bread", "", "", "", "", ""]⟩
    let milk : Row (Domain.table .product) := ⟨#v["P2", "Milk", "", "", "", "", ""]⟩
    let service := ({} : SearchService).answer "productid:*P1*" [Key.ofParts "P1" "C1" "L1"]
    let events : List (Event (Domain.table .product)) :=
      [.loadMaster (.ok [milk]), .loadMaster (.ok [bread, milk]),
        .prepare "a" "productid:*P1*" false, .run "a", .apply "a"]
    let s₀ := start (.usual .product) (Source.master .product [])
    let s := s₀.run service.search events
    (∀ before rows after, events = before ++ .loadMaster (.ok rows) :: after →
      (s₀.run service.search before).screen.isPending = false) ∧
    s.screen.view.all = [bread] ∧ s.screen.view.all.Sublist s.screen.source.rows := by
  intro bread milk service events s₀ s
  have hidle : ∀ before rows after, events = before ++ .loadMaster (.ok rows) :: after →
      (s₀.run service.search before).screen.isPending = false := by
    rintro (_ | ⟨_, _ | ⟨_, before⟩⟩) rows after h
    · decide
    · obtain ⟨rfl, -⟩ := List.cons.inj h
      decide
    · -- the events behind the two loads load nothing
      have htail := (List.cons.inj (List.cons.inj h).2).2
      have hmem : Event.loadMaster (.ok rows) ∈ events.drop 2 := by
        rw [show events.drop 2 = _ from htail]
        exact List.mem_append_right before List.mem_cons_self
      simp [events] at hmem
  have hshown :=
    shown_sublist_snapshot service.search (.usual .product) (d := .product) [] events
  exact ⟨hidle, by decide, hshown.2.2 hidle⟩

/-- The search is prepared while the snapshot holds both products and applied when one of them is
gone. -/
theorem removed_row_shown_of_load_while_pending :
    let bread : Row (Domain.table .product) := ⟨#v["P1", "", "", "", "", "", ""]⟩
    let milk : Row (Domain.table .product) := ⟨#v["P2", "", "", "", "", "", ""]⟩
    let service := ({} : SearchService).answer "productid:*P1*" [Key.ofParts "P1" "" ""]
    let s := (start (.usual .product) (Source.master .product [])).run service.search
      [.loadMaster (.ok [bread, milk]), .prepare "a" "productid:*P1*" false,
        .loadMaster (.ok [milk]), .run "a", .apply "a"]
    s.screen.source.rows = [milk] ∧ s.screen.view.all = [bread] ∧
      ¬ s.screen.view.all.Sublist s.screen.source.rows := by
  decide

end Session

end PlanningSearch
