import PlanningSearch.Proofs.Screen.Moments

/-!
Where the rows shown and the searches in flight come from. Every search was started at some moment
of the session, on the screen as it was then; it was run at that moment or later, with the answers
of that time; and the rows shown, if there are any, are the rows of such an outcome. Each moment
keeps this for any kind of search, as long as the searches that it starts are of that kind and the
older ones stay of that kind. The older ones may drop out where a form runs a search that succeeds,
since its rows take their place.
-/

namespace PlanningSearch

open Ticket

variable {t : Table}

def Turn.search? (s : Screen t) : Turn → Option (Pending t)
  | .search query flag => some (s.prepare query flag).2
  | _ => none

def Event.starts? (s : Screen t) : Event t → Option (Pending t)
  | .prepare _ q flag => some (s.prepare q flag).2
  | e => (e.turn? s).bind fun turn => turn.search? (e.entered s)

namespace Event

variable {s : Screen t} {e : Event t}

theorem starts?_of_turn {turn : Turn} (h : e.turn? s = some turn) :
    e.starts? s = turn.search? (e.entered s) := by
  unfold starts?
  split
  · cases h
  · rw [h]
    rfl

theorem starts?_eq_some {p : Pending t} (h : e.starts? s = some p) :
    ∃ query flag, p = ((e.entered s).prepare query flag).2 := by
  cases hturn : e.turn? s with
  | some turn =>
    rw [starts?_of_turn hturn] at h
    cases turn with
    | search query flag => exact ⟨query, flag, (Option.some.inj h).symm⟩
    | refuse | empty | stay => cases h
  | none =>
    cases e with
    | prepare slot query flag => exact ⟨query, flag, (Option.some.inj h).symm⟩
    | query | criteria | loadSaved | typed | fields | bucket => cases hturn
    | _ => cases h

end Event

theorem Source.consulting_consulting (source : Source t) (first second : Details t) :
    (source.consulting first).consulting second = source.consulting second := by
  cases source <;> rfl

namespace Pending

theorem consulting_consulting (p : Pending t) (first second : Details t) :
    (p.consulting first).consulting second = p.consulting second := by
  rw [consulting, consulting, Source.consulting_consulting]
  rfl

def RanAt (p : Pending t) (m : Moment t) (o : Outcome t) : Prop :=
  ∃ overtaken, o = ((p.consulting m.details).run m.backend overtaken).1

end Pending

variable [Text.Order] in
theorem Screen.rows_runQuery (s : Screen t) (backend : Backend) (query : String) (flag : Bool) :
    let r := (s.runQuery backend query flag).screen
    r.status = .failed ∧ r.view = s.view ∨ r.view.all = [] ∨
      ((s.prepare query flag).2.run backend false).1.result = .ok (.rows r.view.all) := by
  intro r
  rcases hr : ((s.prepare query flag).2.resolve backend false).1 with err | rows | _ | _
  · obtain ⟨hview, hfailed⟩ := runQuery_of_error hr
    exact .inl ⟨hfailed, hview⟩
  · have hview : r.view = s.view.load rows := (runQuery_of_ok hr).1
    rw [hview]
    exact .inr (.inr hr)
  · have hview : r.view = s.view.clear := (runQuery_of_ok hr).1
    rw [hview]
    exact .inr (.inl rfl)
  · exact absurd hr (Pending.resolve_ne_superseded _ backend)

namespace Session

def starts? (s : Session t) (m : Moment t) : Option (Pending t) :=
  m.event.starts? (s.consulting m.details).screen

variable [Text.Order] in
/-- No form runs a search at once, unless that search fails. -/
def Retains (s : Session t) (m : Moment t) : Prop :=
  ∀ query flag, m.event.turn? (s.consulting m.details).screen = some (.search query flag) →
    (s.advance m).1.screen.status = .failed

theorem consulting_prepare {s : Session t} {details : Details t} {screen : Screen t}
    (h : screen.source = (s.consulting details).screen.source) (query : String) (flag : Bool) :
    (screen.prepare query flag).2.consulting details = (screen.prepare query flag).2 := by
  have hsource : (screen.prepare query flag).2.source = s.screen.source.consulting details := h
  rw [Pending.consulting, hsource, Source.consulting_consulting, ← hsource]

variable [Text.Order] in
theorem search_at_once {s : Session t} {m : Moment t} {query : String} {flag : Bool}
    (h : m.event.turn? (s.consulting m.details).screen = some (.search query flag)) :
    let entered := m.event.entered (s.consulting m.details).screen
    let p := (entered.prepare query flag).2
    s.starts? m = some p ∧ p.RanAt m (p.run m.backend false).1 ∧
      (s.advance m).1.screen = (entered.runQuery m.backend query flag).screen := by
  intro entered p
  have hsteady : p.consulting m.details = p :=
    consulting_prepare (m.event.entered_source (s.consulting m.details).screen) query flag
  refine ⟨Event.starts?_of_turn h, ⟨false, by rw [hsteady]⟩, ?_⟩
  exact congrArg (fun r => r.1.screen) (step_of_turn m.backend h)

/-- The searches in flight and the rows shown come from searches of a kind, which may depend on the
moments since the search was started; it is run at one of those. -/
structure Sourced (held : Pending t → List (Moment t) → Prop) (s : Session t) : Prop where
  prepared : ∀ e ∈ s.prepared, s.screen.desk.open? = some e.2.ticket →
    ∃ p since details, held p since ∧ e.2 = p.consulting details
  outcomes : ∀ e ∈ s.outcomes, s.screen.desk.open? = some e.2.ticket →
    ∃ p since, held p since ∧ ∃ m ∈ since, p.RanAt m e.2
  shown : s.screen.view.all ≠ [] →
    ∃ p since, held p since ∧ ∃ m ∈ since, ∃ o, p.RanAt m o ∧
      o.result = .ok (.rows s.screen.view.all)

namespace Sourced

variable {held held' : Pending t → List (Moment t) → Prop} {m : Moment t} {s s' : Session t}

theorem mono (h : s.Sourced held) (himp : ∀ p since, held p since → held' p (since ++ [m])) :
    s.Sourced held' where
  prepared e he hopen := by
    obtain ⟨p, since, details, hp, heq⟩ := h.prepared e he hopen
    exact ⟨p, since ++ [m], details, himp p since hp, heq⟩
  outcomes e he hopen := by
    obtain ⟨p, since, hp, m', hm', hran⟩ := h.outcomes e he hopen
    exact ⟨p, since ++ [m], himp p since hp, m', List.mem_append_left _ hm', hran⟩
  shown hall := by
    obtain ⟨p, since, hp, m', hm', hran⟩ := h.shown hall
    exact ⟨p, since ++ [m], himp p since hp, m', List.mem_append_left _ hm', hran⟩

theorem consulting (h : s.Sourced held) (details : Details t) :
    (s.consulting details).Sourced held where
  prepared e he hopen := by
    obtain ⟨q, hq, heq⟩ := mem_consulting he
    rw [heq] at hopen ⊢
    obtain ⟨p, since, first, hp, rfl⟩ := h.prepared _ hq hopen
    exact ⟨p, since, details, hp, p.consulting_consulting first details⟩
  outcomes := h.outcomes
  shown := h.shown

theorem of_same (h : s.Sourced held) (hall : s'.screen.view.all = s.screen.view.all)
    (hdesk : s'.screen.desk = s.screen.desk) (hprepared : s'.prepared = s.prepared)
    (houtcomes : s'.outcomes = s.outcomes) : s'.Sourced held where
  prepared := hprepared ▸ hdesk ▸ h.prepared
  outcomes := houtcomes ▸ hdesk ▸ h.outcomes
  shown := hall ▸ h.shown

theorem of_idle (hidle : s'.screen.desk.open? = none)
    (hshown : s'.screen.view.all ≠ [] → ∃ p since, held p since ∧ ∃ m ∈ since, ∃ o,
      p.RanAt m o ∧ o.result = .ok (.rows s'.screen.view.all)) : s'.Sourced held where
  prepared _ _ hopen := absurd (hidle.symm.trans hopen) nofun
  outcomes _ _ hopen := absurd (hidle.symm.trans hopen) nofun
  shown := hshown

variable [Text.Order]

theorem prepare (h : (s.consulting m.details).Sourced held) (hs : s.Sound)
    {slot query : String} {flag : Bool} (hevent : m.event = .prepare slot query flag)
    (hnew : held ((s.consulting m.details).screen.prepare query flag).2 [m]) :
    (s.advance m).1.Sourced held := by
  rw [advance, hevent]
  refine ⟨fun e he hticket => ?_, fun e he hticket => ?_, h.shown⟩
  · rcases mem_putSlot he with rfl | ⟨hmem, -⟩
    · exact ⟨_, [m], m.details, hnew, (consulting_prepare rfl query flag).symm⟩
    · exact absurd hticket (Desk.open?_issue_ne ((hs.consulting m.details).prepared e hmem))
  · exact absurd hticket (Desk.open?_issue_ne (hs.outcomes e he))

theorem run (h : s.Sourced held) (himp : ∀ p since, held p since → held' p (since ++ [m]))
    {slot : String} (hevent : m.event = .run slot) : (s.advance m).1.Sourced held' := by
  have hconsulted := (h.mono himp).consulting m.details
  rw [advance, hevent]
  cases htake : takeSlot slot (s.consulting m.details).prepared with
  | none =>
    rw [step_run_none m.backend htake]
    exact hconsulted
  | some taken =>
    obtain ⟨q, rest⟩ := taken
    rw [step_run m.backend htake]
    refine ⟨fun e he => hconsulted.prepared e (mem_of_mem_rest htake he).1, fun e he hopen => ?_,
      hconsulted.shown⟩
    rcases mem_putSlot he with rfl | ⟨hother, -⟩
    · obtain ⟨q', hq', rfl⟩ := mem_consulting (takeSlot_eq_some htake).1
      obtain ⟨p, since, first, hp, rfl⟩ := h.prepared _ hq' hopen
      exact ⟨p, since ++ [m], himp p since hp, m,
        List.mem_append_right _ (List.mem_singleton_self m), _,
        congrArg (fun q : Pending t => (q.run m.backend _).1) (p.consulting_consulting first _)⟩
    · exact hconsulted.outcomes e hother hopen

theorem apply (h : (s.consulting m.details).Sourced held) (hs : s.Sound) {slot : String}
    (hevent : m.event = .apply slot) : (s.advance m).1.Sourced held := by
  rw [advance, hevent]
  cases htake : takeSlot slot (s.consulting m.details).outcomes with
  | none =>
    rw [step_apply_none m.backend htake]
    exact h
  | some taken =>
    obtain ⟨o, rest⟩ := taken
    rw [step_apply m.backend htake]
    by_cases hopen : (s.consulting m.details).screen.desk.open? = some o.ticket
    · refine .of_idle ?_ fun hne => ?_
      · rw [Screen.desk_apply]
        exact Desk.open?_close hs.single hopen
      · obtain ⟨p, since, hp, m', hm', hran⟩ := h.outcomes _ (takeSlot_eq_some htake).1 hopen
        rw [Screen.view_apply hopen] at hne ⊢
        rcases hr : o.result with err | rows | _ | _ <;> rw [hr] at hne
        · exact h.shown hne
        · exact ⟨p, since, hp, m', hm', o, hran, hr⟩
        · exact absurd rfl hne
        · exact h.shown hne
    · rw [Screen.apply_of_ne hopen]
      exact ⟨h.prepared, fun e he => h.outcomes e (mem_of_mem_rest htake he).1, h.shown⟩

theorem turn (h : (s.consulting m.details).Sourced held) {turn : Turn}
    (hturn : m.event.turn? (s.consulting m.details).screen = some turn)
    (hnew : ∀ p, s.starts? m = some p → held' p [m])
    (hkeep : s.Retains m → ∀ p since, held p since → held' p (since ++ [m])) :
    (s.advance m).1.Sourced held' := by
  have hall := congrArg View.all (m.event.entered_view (s.consulting m.details).screen)
  have hdesk := m.event.entered_desk (s.consulting m.details).screen
  have hadvance : s.advance m = _ := step_of_turn m.backend hturn
  -- only a search that is run at once replaces what was held before
  have hretains (hne : ∀ query flag, turn ≠ .search query flag) : s.Retains m :=
    fun query flag hsearch => absurd (Option.some.inj (hturn.symm.trans hsearch)) (hne _ _)
  cases turn with
  | refuse err =>
    rw [hadvance]
    exact (h.mono (hkeep (hretains nofun))).of_same hall hdesk rfl rfl
  | stay =>
    rw [hadvance]
    exact (h.mono (hkeep (hretains nofun))).of_same hall hdesk rfl rfl
  | empty =>
    rw [hadvance]
    exact .of_idle (Desk.open?_cancel _) fun hne => absurd rfl hne
  | search query flag =>
    obtain ⟨hstarts, hran, hscreen⟩ := search_at_once hturn
    set entered := m.event.entered (s.consulting m.details).screen
    refine .of_idle ?_ fun hne => ?_
    · rw [hscreen]
      exact (Screen.runQuery_result m.backend query flag).2.1
    · rcases entered.rows_runQuery m.backend query flag with ⟨hfailed, hview⟩ | hnone | hrows
      · have hretains : s.Retains m := fun _ _ _ => hscreen ▸ hfailed
        have hsame : (s.advance m).1.screen.view.all = (s.consulting m.details).screen.view.all :=
          hscreen ▸ hview ▸ hall
        rw [hsame] at hne ⊢
        exact (h.mono (hkeep hretains)).shown hne
      · exact absurd (hscreen ▸ hnone) hne
      · refine ⟨_, [m], hnew _ hstarts, m, List.mem_singleton_self m, _, hran, ?_⟩
        rw [hscreen]
        exact hrows

theorem advance (h : s.Sourced held) (hs : s.Sound)
    (hnew : ∀ p, s.starts? m = some p → held' p [m])
    (hkeep : s.Retains m → ∀ p since, held p since → held' p (since ++ [m])) :
    (s.advance m).1.Sourced held' := by
  cases hturn : m.event.turn? (s.consulting m.details).screen with
  | some turn => exact (h.consulting m.details).turn hturn hnew hkeep
  | none =>
    have himp := hkeep fun _ _ hsearch => nomatch hturn.symm.trans hsearch
    have hconsulted := (h.mono himp).consulting m.details
    cases hevent : m.event with
    | query | criteria | loadSaved | typed | fields | bucket =>
      rw [hevent] at hturn
      cases hturn
    | prepare slot q flag =>
      refine hconsulted.prepare hs hevent (hnew _ ?_)
      rw [starts?, hevent]
      rfl
    | run slot => exact h.run himp hevent
    | apply slot => exact hconsulted.apply hs hevent
    | refreshSaved listing =>
      rw [Session.advance, hevent]
      cases listing <;> exact hconsulted.of_same rfl rfl rfl rfl
    | loadMaster listing =>
      rw [Session.advance, hevent]
      cases listing with
      | error err => exact hconsulted.of_same rfl rfl rfl rfl
      | ok rows => exact ⟨hconsulted.prepared, hconsulted.outcomes, fun hne => absurd rfl hne⟩
    | sort column =>
      rw [Session.advance, hevent]
      refine hconsulted.of_same ?_ rfl rfl rfl
      simp only [step, withView, View.sortBy]
      split <;> rfl
    | select | filterContaining | filterExactly | clearFilters | goTo =>
      rw [Session.advance, hevent]
      exact hconsulted.of_same rfl rfl rfl rfl

end Sourced

variable [Text.Order]

/-- The search was started at the first of the last moments, and no search that was run at once has
succeeded since. -/
def StartedSince (s₀ : Session t) (moments : List (Moment t)) (p : Pending t)
    (since : List (Moment t)) : Prop :=
  ∃ before m after, moments = before ++ since ∧ since = m :: after ∧
    (s₀.live before).starts? m = some p ∧
    ∀ mid m' rest, after = mid ++ m' :: rest → (s₀.live (before ++ m :: mid)).Retains m'

variable {s₀ : Session t} {moments since : List (Moment t)} {m : Moment t} {p : Pending t}

theorem startedSince_now (h : (s₀.live moments).starts? m = some p) :
    StartedSince s₀ (moments ++ [m]) p [m] :=
  ⟨moments, m, [], rfl, rfl, h, fun mid _ _ hsplit => by simp at hsplit⟩

theorem StartedSince.concat (h : StartedSince s₀ moments p since)
    (hm : (s₀.live moments).Retains m) : StartedSince s₀ (moments ++ [m]) p (since ++ [m]) := by
  obtain ⟨before, first, after, rfl, rfl, hstarts, hsince⟩ := h
  exact ⟨before, first, after ++ [m], List.append_assoc .., rfl, hstarts,
    forall_split_concat.mpr ⟨hsince, hm⟩⟩

theorem live_sourced (settings : ScreenSettings) (source : Source t) (moments : List (Moment t)) :
    let s₀ := start settings source
    (s₀.live moments).Sourced (StartedSince s₀ moments) := by
  intro s₀
  induction moments using List.reverseRecOn with
  | nil =>
    refine ⟨?_, ?_, fun hne => absurd rfl hne⟩
    · exact fun e he => absurd he List.not_mem_nil
    · exact fun e he => absurd he List.not_mem_nil
  | append_singleton moments m ih =>
    have hsound := live_sound (start_sound settings source) moments
    rw [live_concat]
    exact ih.advance hsound (fun p hp => startedSince_now hp) fun hm p since hp => hp.concat hm

end Session

end PlanningSearch
