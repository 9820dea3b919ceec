import PlanningSearch.Proofs.Screen.Snapshot

/-!
A session whose collaborators answer anew at every event, so that the same query may fail now and
succeed later. A run with collaborators that always answer alike is one of these.
-/

namespace PlanningSearch

open Ticket

variable {t : Table}

abbrev Details (t : Table) := Bucket → List Key → Except SearchError (List (Row t))

/-- An event, with the search service and the detail service as they answer at that time. -/
structure Moment (t : Table) where
  event : Event t
  backend : Backend
  details : Details t

def Source.consulting (source : Source t) (details : Details t) : Source t :=
  match source with
  | .detail _ => .detail details
  | source => source

theorem Source.consulting_withRows (source : Source t) (details : Details t)
    (rows : List (Row t)) :
    (source.withRows rows).consulting details = (source.consulting details).withRows rows := by
  cases source <;> rfl

def Pending.consulting (p : Pending t) (details : Details t) : Pending t :=
  { p with source := p.source.consulting details }

namespace Session

def consulting (s : Session t) (details : Details t) : Session t :=
  { s with
      screen := { s.screen with source := s.screen.source.consulting details }
      prepared := s.prepared.map fun e => (e.1, e.2.consulting details) }

variable [Text.Order]

def advance (s : Session t) (m : Moment t) : Session t × Answer :=
  (s.consulting m.details).step m.backend m.event

def live (s : Session t) (moments : List (Moment t)) : Session t :=
  moments.foldl (fun s m => (s.advance m).1) s

theorem live_concat (s : Session t) (moments : List (Moment t)) (m : Moment t) :
    s.live (moments ++ [m]) = ((s.live moments).advance m).1 :=
  List.foldl_append

theorem live_append (s : Session t) (before after : List (Moment t)) :
    s.live (before ++ after) = (s.live before).live after :=
  List.foldl_append

omit [Text.Order] in
theorem mem_consulting {s : Session t} {details : Details t} {e : String × Pending t}
    (h : e ∈ (s.consulting details).prepared) :
    ∃ p, (e.1, p) ∈ s.prepared ∧ e.2 = p.consulting details := by
  obtain ⟨⟨slot, p⟩, hmem, rfl⟩ := List.mem_map.mp h
  exact ⟨p, hmem, rfl⟩

omit [Text.Order] in
theorem Sound.consulting {s : Session t} (h : s.Sound) (details : Details t) :
    (s.consulting details).Sound where
  single := h.single
  prepared e he := by
    obtain ⟨p, hmem, hp⟩ := mem_consulting he
    rw [hp]
    exact h.prepared _ hmem
  outcomes := h.outcomes
  superseded := h.superseded

theorem advance_sound {s : Session t} (h : s.Sound) (m : Moment t) : (s.advance m).1.Sound :=
  step_sound m.backend (h.consulting m.details) m.event

theorem live_sound {s : Session t} (h : s.Sound) (moments : List (Moment t)) :
    (s.live moments).Sound := by
  induction moments generalizing s with
  | nil => exact h
  | cons m moments ih => exact ih (advance_sound h m)

structure Steady (details : Details t) (s : Session t) : Prop where
  source : s.screen.source.consulting details = s.screen.source
  prepared : ∀ e ∈ s.prepared, e.2.consulting details = e.2

omit [Text.Order] in
theorem Steady.consulting_eq {details : Details t} {s : Session t} (h : s.Steady details) :
    s.consulting details = s := by
  have hprepared : (s.prepared.map fun e => (e.1, e.2.consulting details)) = s.prepared.map id :=
    List.map_congr_left fun e he => Prod.ext rfl (h.prepared e he)
  rw [List.map_id] at hprepared
  rw [Session.consulting, h.source, hprepared]

theorem mem_prepared_step (backend : Backend) {s : Session t} {e : Event t}
    {entry : String × Pending t} (h : entry ∈ (s.step backend e).1.prepared) :
    entry ∈ s.prepared ∨
      ∃ slot q flag, e = .prepare slot q flag ∧ entry.2 = (s.screen.prepare q flag).2 := by
  cases e with
  | prepare slot q flag =>
    rcases mem_putSlot h with rfl | ⟨hmem, -⟩
    · exact .inr ⟨slot, q, flag, rfl, rfl⟩
    · exact .inl hmem
  | run slot =>
    cases htake : takeSlot slot s.prepared with
    | none =>
      rw [step_run_none backend htake] at h
      exact .inl h
    | some taken =>
      rw [step_run backend htake] at h
      exact .inl (mem_of_mem_rest htake h).1
  | apply slot =>
    cases htake : takeSlot slot s.outcomes with
    | none =>
      rw [step_apply_none backend htake] at h
      exact .inl h
    | some taken =>
      rw [step_apply backend htake] at h
      exact .inl h
  | _ => exact .inl h

theorem step_steady (backend : Backend) {details : Details t} {s : Session t}
    (h : s.Steady details) (e : Event t) : (s.step backend e).1.Steady details where
  source := by
    rw [(step_stays backend s e).source]
    cases e.loaded? with
    | none => exact h.source
    | some rows =>
      change (s.screen.source.withRows rows).consulting details = s.screen.source.withRows rows
      rw [Source.consulting_withRows, h.source]
  prepared entry hentry := by
    rcases mem_prepared_step backend hentry with hmem | ⟨slot, q, flag, -, hprepare⟩
    · exact h.prepared entry hmem
    · have hsource : entry.2.source = s.screen.source := congrArg Pending.source hprepare
      rw [Pending.consulting, hsource, h.source, ← hsource]

theorem run_eq_live (backend : Backend) {details : Details t} {s : Session t}
    (h : s.Steady details) (events : List (Event t)) :
    s.run backend events = s.live (events.map fun e => ⟨e, backend, details⟩) := by
  induction events generalizing s with
  | nil => rfl
  | cons e events ih =>
    have hstep : (s.advance ⟨e, backend, details⟩).1 = (s.step backend e).1 := by
      rw [advance, h.consulting_eq]
    rw [List.map_cons, live, List.foldl_cons, hstep]
    exact ih (step_steady backend h e)

end Session

end PlanningSearch
