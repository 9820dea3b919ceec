import PlanningSearch.Proofs.Screen.Loading
import PlanningSearch.Proofs.Screen.Provenance
import PlanningSearch.Services

/-!
The message of a screen after a success. An outcome that is shown as loaded, and a form that has
nothing to run, leave no message of an earlier failure; the one message that may stand is the
notice of a search that asked for it and whose answer held no keys. Loading a snapshot leaves the
message alone, so it has to find none.
-/

namespace PlanningSearch

open Ticket

variable {t : Table}

theorem Pending.RanAt.no_keys {p : Pending t} {m : Moment t} {o : Outcome t} (h : p.RanAt m o)
    (hr : o.result = .ok .noMatches) :
    o.ticket = p.ticket ∧ o.flagEmpty = p.flagEmpty ∧
      ∃ found, m.backend p.query p.limit 0 = .ok found ∧ found.keys = [] := by
  obtain ⟨overtaken, rfl⟩ := h
  have hkeys := resolve_eq_noMatches hr
  exact ⟨rfl, rfl, hkeys⟩

namespace Screen

variable [Text.Order]

theorem open?_of_shown {s : Screen t} {o : Outcome t} (h : (s.apply o).2 = true) :
    s.desk.open? = some o.ticket := by
  by_contra hne
  rw [apply_of_ne hne] at h
  cases h

theorem message_apply {s : Screen t} {o : Outcome t} (h : (s.apply o).2 = true)
    (hstatus : (s.apply o).1.status = .loaded) :
    (s.apply o).1.message = none ∨
      (s.apply o).1.message = some noMatchesNotice ∧ (s.apply o).1.view.all = [] ∧
        o.flagEmpty = true ∧ o.result = .ok .noMatches := by
  have hopen := open?_of_shown h
  rw [apply, Desk.close_of_open? hopen] at h hstatus ⊢
  rcases hr : o.result with err | rows | _ | _ <;> rw [hr] at h hstatus
  · cases hstatus
  · exact .inl rfl
  · cases hflag : o.flagEmpty with
    | false => exact .inl rfl
    | true => exact .inr ⟨rfl, rfl, rfl, rfl⟩
  · cases h

theorem message_runQuery {s : Screen t} {backend : Backend} {query : String} {flag : Bool}
    (hstatus : (s.runQuery backend query flag).screen.status = .loaded) :
    let r := (s.runQuery backend query flag).screen
    let o := ((s.prepare query flag).2.run backend false).1
    r.message = none ∨
      r.message = some noMatchesNotice ∧ r.view.all = [] ∧
        o.flagEmpty = true ∧ o.result = .ok .noMatches := by
  rw [runQuery_eq] at hstatus ⊢
  refine message_apply (apply_of_open? s.desk.open?_issue ?_) hstatus
  exact Pending.resolve_ne_superseded _ backend

end Screen

namespace Session

section

variable [Text.Order]

/-- The ways in which an operation succeeds: an outcome is shown, or a query that is run at once;
a form has nothing to run; a snapshot is loaded. -/
inductive Succeeds (s : Session t) (m : Moment t) : Prop where
  | shown {slot : String} (hevent : m.event = .apply slot) (h : (s.advance m).2 = .flag true)
      (hstatus : (s.advance m).1.screen.status = .loaded)
  | found {query : String} {flag : Bool}
      (h : m.event.turn? (s.consulting m.details).screen = some (.search query flag))
      (hstatus : (s.advance m).1.screen.status = .loaded)
  | emptied (h : m.event.turn? (s.consulting m.details).screen = some .empty)
  | loaded {rows : List (Row t)} (hevent : m.event = .loadMaster (.ok rows))

theorem shown_of_answer_true {s : Session t} {m : Moment t} {slot : String}
    (hevent : m.event = .apply slot) (h : (s.advance m).2 = .flag true) :
    ∃ e ∈ s.outcomes, s.screen.desk.open? = some e.2.ticket ∧
      ((s.consulting m.details).screen.apply e.2).2 = true ∧
      (s.advance m).1.screen = ((s.consulting m.details).screen.apply e.2).1 := by
  rw [advance, hevent] at h ⊢
  cases htake : takeSlot slot (s.consulting m.details).outcomes with
  | none =>
    rw [step_apply_none m.backend htake] at h
    cases h
  | some taken =>
    rw [step_apply m.backend htake] at h ⊢
    have hshown := Answer.flag.inj h
    have hopen := Screen.open?_of_shown hshown
    exact ⟨_, (takeSlot_eq_some htake).1, hopen, hshown, rfl⟩

def NothingFound (s₀ : Session t) (moments : List (Moment t)) (p : Pending t) : Prop :=
  ∃ before m after, moments = before ++ m :: after ∧ (s₀.live before).starts? m = some p ∧
    p.flagEmpty = true ∧
    ∃ m' ∈ m :: after, ∃ found, m'.backend p.query p.limit 0 = .ok found ∧ found.keys = []

theorem StartedSince.nothingFound {s₀ : Session t} {moments since : List (Moment t)}
    {p : Pending t} (h : StartedSince s₀ moments p since) {m : Moment t} (hm : m ∈ since)
    {o : Outcome t} (hran : p.RanAt m o) (hflag : o.flagEmpty = true)
    (hr : o.result = .ok .noMatches) (later : List (Moment t)) :
    NothingFound s₀ (moments ++ later) p := by
  obtain ⟨before, first, after, rfl, rfl, hstarts, -⟩ := h
  obtain ⟨-, hsame, hkeys⟩ := hran.no_keys hr
  exact ⟨before, first, after ++ later, by simp, hstarts, hsame ▸ hflag, m,
    List.mem_append_left later hm, hkeys⟩

/-- After an operation that succeeded no message is shown, but for the notice of a search that asked
for it and found nothing: the one that was in flight until then, or was started by the operation.
A snapshot that is loaded must find no message, since loading it clears none. -/
theorem message_after_success (settings : ScreenSettings) (source : Source t)
    (moments : List (Moment t)) (m : Moment t) :
    let s₀ := start settings source
    let s := s₀.live moments
    let s' := (s.advance m).1.screen
    s.Succeeds m → (m.event.isLoad = true → s.screen.message = none) →
      s'.message = none ∨
        s'.message = some Screen.noMatchesNotice ∧ s'.view.all = [] ∧
          ∃ p, NothingFound s₀ (moments ++ [m]) p ∧
            (s.screen.desk.open? = some p.ticket ∨ s.starts? m = some p) := by
  intro s₀ s s' hsucceeds hclear
  cases hsucceeds with
  | shown hevent h hstatus =>
    obtain ⟨e, he, hopen, hshown, hscreen⟩ := shown_of_answer_true hevent h
    have hs' : s' = _ := hscreen
    rw [hscreen] at hstatus
    rw [hs']
    rcases Screen.message_apply hshown hstatus with hnone | ⟨hnotice, hall, hflag, hresult⟩
    · exact .inl hnone
    · obtain ⟨p, since, hstarted, m', hm', hran⟩ :=
        (live_sourced settings source moments).outcomes e he hopen
      rw [(hran.no_keys hresult).1] at hopen
      exact .inr ⟨hnotice, hall, p, hstarted.nothingFound hm' hran hflag hresult [m], .inl hopen⟩
  | found h hstatus =>
    obtain ⟨hstarts, hran, hscreen⟩ := search_at_once h
    have hs' : s' = _ := hscreen
    rw [hscreen] at hstatus
    rw [hs']
    rcases Screen.message_runQuery hstatus with hnone | ⟨hnotice, hall, hflag, hresult⟩
    · exact .inl hnone
    · have hnothing := (startedSince_now hstarts).nothingFound (List.mem_singleton_self m) hran
        hflag hresult []
      rw [List.append_nil] at hnothing
      exact .inr ⟨hnotice, hall, _, hnothing, .inr hstarts⟩
  | emptied h =>
    have hadvance : s.advance m = _ := step_of_turn m.backend h
    left
    change (s.advance m).1.screen.message = none
    rw [hadvance]
    rfl
  | loaded hevent =>
    left
    change (s.advance m).1.screen.message = none
    rw [advance, hevent]
    exact hclear (by rw [hevent]; rfl)

end

theorem message_after_success_of_empty_answer :
    let service := ({} : SearchService).answer "productid:*P1*" [Key.ofParts "P1" "" ""]
    let moment (e : Event (Domain.table .product)) : Moment (Domain.table .product) :=
      ⟨e, service.search, fun _ _ => .ok []⟩
    let moments := [moment (.loadMaster (.error (.collaborator "boom"))),
      moment (.prepare "a" "productid:*P2*" true), moment (.run "a")]
    let s₀ := start (.usual .product) (Source.master .product [])
    let s := s₀.live moments
    let m := moment (.apply "a")
    s.Succeeds m ∧ (m.event.isLoad = true → s.screen.message = none) ∧
      (s.advance m).1.screen.message = some "No matches for this saved query." ∧
      ∃ p, NothingFound s₀ (moments ++ [m]) p ∧ p.ticket = 1 := by
  intro service moment moments s₀ s m
  have hsucceeds : s.Succeeds m := .shown rfl (by decide) (by decide)
  have hload : m.event.isLoad = true → s.screen.message = none := nofun
  have hmessage : (s.advance m).1.screen.message = some "No matches for this saved query." := by
    decide
  refine ⟨hsucceeds, hload, hmessage, ?_⟩
  rcases message_after_success (.usual .product) (.master .product []) moments m hsucceeds hload with
    hnone | ⟨-, -, p, hnothing, hopen | hstarts⟩
  · exact nomatch hnone.symm.trans hmessage
  · have hticket : s.screen.desk.open? = some 1 := by decide
    exact ⟨p, hnothing, Option.some.inj (hopen.symm.trans hticket)⟩
  · cases hstarts

/-- The products are loaded in a second attempt, and the message of the first one stays. -/
theorem message_of_failed_load_stays :
    let bread : Row (Domain.table .product) := ⟨#v["P1", "Bread", "", "", "", "", ""]⟩
    let moment (e : Event (Domain.table .product)) : Moment (Domain.table .product) :=
      ⟨e, ({} : SearchService).search, fun _ _ => .ok []⟩
    let s := (start (.usual .product) (Source.master .product [])).live
      [moment (.loadMaster (.error (.collaborator "boom")))]
    let m := moment (.loadMaster (.ok [bread]))
    s.Succeeds m ∧ (s.advance m).1.screen.status = .loaded ∧
      (s.advance m).1.screen.message = some "Failed to load products." ∧
      (s.advance m).1.screen.message ≠ some Screen.noMatchesNotice := by
  intro bread moment s m
  exact ⟨.loaded rfl, by decide, by decide, by decide⟩

end Session

end PlanningSearch
