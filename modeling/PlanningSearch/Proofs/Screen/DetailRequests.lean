import Mathlib.Data.Finset.Card
import PlanningSearch.Proofs.Csv
import PlanningSearch.Proofs.Screen.Bucket

/-!
Requests to the detail service. A detail screen asks for rows only when a search that it runs has
found keys and has not been overtaken; it then asks once, for each key once, and for the bucket
that the screen had when the search was prepared.
-/

namespace PlanningSearch

open Ticket

variable {t : Table}

theorem Key.triple_injective : Function.Injective (Row.triple : Key → String × String × String) := by
  intro k k' h
  simp only [Row.triple, Prod.mk.injEq] at h
  obtain ⟨hproduct, hchannel, hlocation⟩ := h
  refine Row.texts_injective ?_
  rw [Row.texts_eq, Row.texts_eq]
  simp only [Table.columns, List.map_cons, List.map_nil, hproduct, hchannel, hlocation]

theorem length_distinctKeys (keys : List Key) :
    (distinctKeys keys).length = (keys.map Row.triple).toFinset.card := by
  have hnodup : ((distinctKeys keys).map Row.triple).Nodup :=
    (distinctKeys_nodup keys).map Key.triple_injective
  have hsame : (keys.map Row.triple).toFinset = ((distinctKeys keys).map Row.triple).toFinset := by
    ext x
    simp only [List.mem_toFinset, List.mem_map, mem_distinctKeys]
  rw [hsame, List.toFinset_card_of_nodup hnodup, List.length_map]

def Request.detail? : Request → Option (Bucket × Nat)
  | .search _ => none
  | .detail b n => some (b, n)

namespace Pending

variable {p : Pending t} {backend : Backend} {overtaken : Bool}

theorem details_run_of_keys {fetch : Details t} (hp : p.source = .detail fetch)
    {found : SearchResult} (h : backend p.query p.limit 0 = .ok found) (hkeys : found.keys ≠ []) :
    (p.run backend false).2.filterMap Request.detail? =
      [(p.bucket, (found.keys.map Row.triple).toFinset.card)] := by
  have hdistinct := distinctKeys_ne_nil hkeys
  rw [← length_distinctKeys]
  simp only [run, resolve, h, Bool.false_eq_true, if_false, List.isEmpty_iff, hkeys, hp,
    Source.asks]
  cases hk : distinctKeys found.keys with
  | nil => exact absurd hk hdistinct
  | cons k ks => rfl

theorem details_run_of_overtaken (p : Pending t) (backend : Backend) :
    (p.run backend true).2.filterMap Request.detail? = [] := by
  simp only [run, resolve]
  cases backend p.query p.limit 0 <;> rfl

theorem details_run_of_no_keys
    (h : ∀ found, backend p.query p.limit 0 = .ok found → found.keys = []) :
    (p.run backend overtaken).2.filterMap Request.detail? = [] := by
  simp only [run, resolve]
  cases hsearch : backend p.query p.limit 0 with
  | error e => rfl
  | ok found => cases overtaken <;> simp [h found hsearch, Request.detail?]

end Pending

namespace Session

/-- The search that an event runs, with the desk that tells whether it is overtaken by then. When a
form runs its search at once, the desk has just issued the ticket. -/
def runs? (s : Session t) : Event t → Option (Pending t × Desk)
  | .run slot => (takeSlot slot s.prepared).map fun taken => (taken.1, s.screen.desk)
  | .prepare _ _ _ => none
  | e => (e.starts? s.screen).map fun p => (p, s.screen.desk.issue.1)

section Steps

variable (backend : Backend) {s : Session t} {e : Event t}

theorem runs?_of_turn {turn : Turn} (h : e.turn? s.screen = some turn) :
    s.runs? e = (turn.search? (e.entered s.screen)).map fun p => (p, s.screen.desk.issue.1) := by
  rw [← Event.starts?_of_turn h]
  cases e with
  | query | criteria | loadSaved | typed | fields | bucket => rfl
  | _ => cases h

theorem runs?_eq_some {p : Pending t} {desk : Desk} (h : s.runs? e = some (p, desk)) :
    (∃ entry ∈ s.prepared, entry.2 = p) ∨ e.starts? s.screen = some p := by
  cases hturn : e.turn? s.screen with
  | some turn =>
    rw [runs?_of_turn hturn, ← Event.starts?_of_turn hturn] at h
    obtain ⟨q, hq, heq⟩ := Option.map_eq_some_iff.mp h
    cases heq
    exact .inr hq
  | none =>
    cases e with
    | run slot =>
      obtain ⟨⟨q, rest⟩, htake, heq⟩ := Option.map_eq_some_iff.mp h
      cases heq
      exact .inl ⟨_, (takeSlot_eq_some htake).1, rfl⟩
    | query | criteria | loadSaved | typed | fields | bucket => cases hturn
    | _ => cases h

variable [Text.Order]

theorem asked_step : (s.step backend e).1.asked = s.asked ++
    ((s.runs? e).map fun r => (r.1.run backend (r.2.isOvertaken r.1.ticket)).2).getD [] := by
  cases hturn : e.turn? s.screen with
  | some turn =>
    rw [step_of_turn backend hturn, runs?_of_turn hturn]
    cases turn with
    | search query flag =>
      -- the form may have switched the bucket, but its ticket comes from the same desk
      rw [← e.entered_desk s.screen]
      rfl
    | refuse | empty | stay => rfl
  | none =>
    cases e with
    | run slot =>
      cases htake : takeSlot slot s.prepared with
      | none =>
        rw [step_run_none backend htake, runs?, htake]
        exact (List.append_nil _).symm
      | some taken =>
        rw [step_run backend htake, runs?, htake]
        rfl
    | apply slot =>
      cases htake : takeSlot slot s.outcomes with
      | none =>
        rw [step_apply_none backend htake]
        exact (List.append_nil _).symm
      | some taken =>
        rw [step_apply backend htake]
        exact (List.append_nil _).symm
    | query | criteria | loadSaved | typed | fields | bucket => cases hturn
    | _ => exact (List.append_nil _).symm

theorem detailRequests_step : (s.step backend e).1.detailRequests = s.detailRequests ++
    ((s.runs? e).map fun r =>
      (r.1.run backend (r.2.isOvertaken r.1.ticket)).2.filterMap Request.detail?).getD [] := by
  change (s.step backend e).1.asked.filterMap Request.detail? =
    s.asked.filterMap Request.detail? ++ _
  rw [asked_step, List.filterMap_append]
  cases s.runs? e <;> rfl

end Steps

section

variable [Text.Order]

def StartedIn (s₀ : Session t) (backend : Backend) (events : List (Event t)) (p : Pending t) :
    Prop :=
  ∃ before e after, events = before ++ e :: after ∧
    e.starts? (s₀.run backend before).screen = some p

section Runs

variable {backend : Backend} {s₀ : Session t} {events : List (Event t)} {p : Pending t}

theorem startedIn_now {e : Event t} (h : e.starts? (s₀.run backend events).screen = some p) :
    s₀.StartedIn backend (events ++ [e]) p :=
  ⟨events, e, [], rfl, h⟩

theorem StartedIn.concat (h : s₀.StartedIn backend events p) (e : Event t) :
    s₀.StartedIn backend (events ++ [e]) p := by
  obtain ⟨before, e₀, after, rfl, hstarts⟩ := h
  exact ⟨before, e₀, after ++ [e], List.append_assoc .., hstarts⟩

theorem prepared_startedIn (settings : ScreenSettings) (source : Source t) (backend : Backend)
    (events : List (Event t)) :
    let s₀ := start settings source
    ∀ entry ∈ (s₀.run backend events).prepared, s₀.StartedIn backend events entry.2 := by
  intro s₀
  induction events using List.reverseRecOn with
  | nil => exact fun entry h => absurd h List.not_mem_nil
  | append_singleton events e ih =>
    intro entry hentry
    rw [run_concat] at hentry
    rcases mem_prepared_step backend hentry with hmem | ⟨slot, q, flag, rfl, hprepare⟩
    · exact (ih entry hmem).concat e
    · exact startedIn_now (congrArg some hprepare.symm)

theorem startedIn_of_runs? (settings : ScreenSettings) (source : Source t) {e : Event t}
    {desk : Desk} (h : ((start settings source).run backend events).runs? e = some (p, desk)) :
    (start settings source).StartedIn backend (events ++ [e]) p := by
  rcases runs?_eq_some h with ⟨entry, hmem, rfl⟩ | hstarts
  · exact (prepared_startedIn settings source backend events entry hmem).concat e
  · exact startedIn_now hstarts

theorem StartedIn.limit_source {settings : ScreenSettings} {fetch : Details t}
    (h : (start settings (.detail fetch)).StartedIn backend events p) :
    p.limit = settings.searchLimit ∧ p.source = .detail fetch := by
  obtain ⟨before, e, after, -, hstarts⟩ := h
  obtain ⟨hsettings, hsource⟩ := run_settings_source backend settings (.detail fetch) before
  obtain ⟨query, flag, rfl⟩ := Event.starts?_eq_some hstarts
  exact ⟨congrArg ScreenSettings.searchLimit ((e.entered_settings _).trans hsettings),
    (e.entered_source _).trans hsource⟩

theorem bucket_of_starts? {e : Event t}
    (h : e.starts? (s₀.run backend events).screen = some p) :
    p.bucket = (s₀.run backend (events ++ [e])).screen.bucket := by
  obtain ⟨query, flag, rfl⟩ := Event.starts?_eq_some h
  rw [run_concat, step_bucket]
  rfl

end Runs

structure Finds (s : Session t) (limit : UInt64) (service : SearchService) (e : Event t)
    (p : Pending t) (found : List Key) : Prop where
  runs : ∃ desk, s.runs? e = some (p, desk) ∧ desk.isOvertaken p.ticket = false
  answered : ∃ keys, service.stored p.query = .ok keys ∧ keys.take limit.toNat = found
  found : found ≠ []

def Requested (s₀ : Session t) (limit : UInt64) (service : SearchService)
    (events : List (Event t)) (entry : Bucket × Nat) : Prop :=
  ∃ before e after p found, events = before ++ e :: after ∧
    (s₀.run service.search before).Finds limit service e p found ∧
    entry = (p.bucket, (found.map Row.triple).toFinset.card)

section Requests

variable (settings : ScreenSettings) (fetch : Details t) (service : SearchService)
  (events : List (Event t)) {e : Event t}

theorem detailRequests_of_finds {p : Pending t} {found : List Key}
    (h : ((start settings (.detail fetch)).run service.search events).Finds settings.searchLimit
      service e p found) :
    let s := (start settings (.detail fetch)).run service.search events
    (s.step service.search e).1.detailRequests =
      s.detailRequests ++ [(p.bucket, (found.map Row.triple).toFinset.card)] := by
  intro s
  obtain ⟨desk, hruns, hopen⟩ := h.runs
  obtain ⟨keys, hstored, rfl⟩ := h.answered
  obtain ⟨hlimit, hsource⟩ := (startedIn_of_runs? settings (.detail fetch) hruns).limit_source
  obtain ⟨answer, hsearch, hkeys⟩ := service.search_of_keys hstored p.limit
  rw [hlimit] at hkeys
  have hentry := Pending.details_run_of_keys hsource hsearch (hkeys ▸ h.found)
  rw [hkeys] at hentry
  rw [detailRequests_step, hruns, Option.map_some, hopen, hentry]
  rfl

theorem detailRequests_of_not_finds
    (h : ∀ p found, ¬ ((start settings (.detail fetch)).run service.search events).Finds
      settings.searchLimit service e p found) :
    let s := (start settings (.detail fetch)).run service.search events
    (s.step service.search e).1.detailRequests = s.detailRequests := by
  intro s
  rw [detailRequests_step]
  cases hruns : s.runs? e with
  | none => exact List.append_nil _
  | some r =>
    obtain ⟨p, desk⟩ := r
    have hnone : (p.run service.search (desk.isOvertaken p.ticket)).2.filterMap
        Request.detail? = [] := by
      cases hopen : desk.isOvertaken p.ticket with
      | true => exact p.details_run_of_overtaken service.search
      | false =>
        obtain ⟨hlimit, -⟩ := (startedIn_of_runs? settings (.detail fetch) hruns).limit_source
        refine Pending.details_run_of_no_keys fun answer hanswer => ?_
        cases hstored : service.stored p.query with
        | error m =>
          rw [service.search_of_failure hstored] at hanswer
          cases hanswer
        | ok keys =>
          obtain ⟨found, hsearch, hkeys⟩ := service.search_of_keys hstored p.limit
          cases hsearch.symm.trans hanswer
          -- with a key within the limit, this would be a search that finds some
          by_contra hne
          rw [hlimit] at hkeys
          exact h p answer.keys ⟨⟨desk, hruns, hopen⟩, ⟨keys, hstored, hkeys.symm⟩, hne⟩
    rw [Option.map_some, Option.getD_some, hnone, List.append_nil]

variable {settings fetch service events} in
theorem Requested.concat {entry : Bucket × Nat}
    (h : (start settings (.detail fetch)).Requested settings.searchLimit service events entry)
    (e : Event t) : (start settings (.detail fetch)).Requested settings.searchLimit service
      (events ++ [e]) entry := by
  obtain ⟨before, e', after, p, found, rfl, hfinds⟩ := h
  exact ⟨before, e', after ++ [e], p, found, List.append_assoc .., hfinds⟩

theorem requested_of_mem {entry : Bucket × Nat}
    (h : entry ∈ ((start settings (.detail fetch)).run service.search events).detailRequests) :
    (start settings (.detail fetch)).Requested settings.searchLimit service events entry := by
  induction events using List.reverseRecOn with
  | nil => exact absurd h List.not_mem_nil
  | append_singleton events e ih =>
    rw [run_concat] at h
    by_cases hfinds : ∃ p found, ((start settings (.detail fetch)).run service.search
        events).Finds settings.searchLimit service e p found
    · obtain ⟨p, found, hfinds⟩ := hfinds
      rw [detailRequests_of_finds settings fetch service events hfinds] at h
      rcases List.mem_append.mp h with hold | hnew
      · exact (ih hold).concat e
      · exact ⟨events, e, [], p, found, rfl, hfinds, List.mem_singleton.mp hnew⟩
    · simp only [not_exists] at hfinds
      rw [detailRequests_of_not_finds settings fetch service events hfinds] at h
      exact (ih h).concat e

end Requests

/-- A search that a detail screen runs was prepared before, or just now, for the bucket that the
screen had at that moment. If it is not overtaken and some key is found within the limit, running it
adds one request to the log, for that bucket and for the number of distinct keys found; no other
event adds any. So every request in the log is of this form and asks for some key. -/
theorem detailRequests_minimal (settings : ScreenSettings) (fetch : Details t)
    (service : SearchService) (events : List (Event t)) :
    let s₀ := start settings (.detail fetch)
    let s := s₀.run service.search events
    (∀ e p desk, s.runs? e = some (p, desk) → ∃ before e₀ after,
      events ++ [e] = before ++ e₀ :: after ∧
      e₀.starts? (s₀.run service.search before).screen = some p ∧
      p.bucket = (s₀.run service.search (before ++ [e₀])).screen.bucket) ∧
    (∀ e p found, s.Finds settings.searchLimit service e p found →
      (s.step service.search e).1.detailRequests =
        s.detailRequests ++ [(p.bucket, (found.map Row.triple).toFinset.card)]) ∧
    (∀ e, (∀ p found, ¬ s.Finds settings.searchLimit service e p found) →
      (s.step service.search e).1.detailRequests = s.detailRequests) ∧
    ∀ entry ∈ s.detailRequests,
      s₀.Requested settings.searchLimit service events entry ∧ 1 ≤ entry.2 := by
  intro s₀ s
  refine ⟨fun e p desk hruns => ?_,
    fun e p found h => detailRequests_of_finds settings fetch service events h,
    fun e h => detailRequests_of_not_finds settings fetch service events h, fun entry h => ?_⟩
  · obtain ⟨before, e₀, after, hsplit, hstarts⟩ :=
      startedIn_of_runs? settings (.detail fetch) hruns
    exact ⟨before, e₀, after, hsplit, hstarts, bucket_of_starts? hstarts⟩
  · have hrequested := requested_of_mem settings fetch service events h
    refine ⟨hrequested, ?_⟩
    obtain ⟨_, _, _, _, found, _, hfinds, rfl⟩ := hrequested
    obtain ⟨k, hk⟩ := List.exists_mem_of_ne_nil found hfinds.found
    exact Finset.card_pos.mpr ⟨k.triple, List.mem_toFinset.mpr (List.mem_map_of_mem hk)⟩

end

theorem detailRequests_minimal_of_switched_bucket :
    let key (product : String) : Key := Key.ofParts product "C1" "L1"
    let service := ({} : SearchService).answer "productid:*P*" [key "P2", key "P1", key "P2", key "P3"]
    let details : DetailService .forecast := { failure := some "offline" }
    let settings := { ScreenSettings.usual .forecast with searchLimit := 3 }
    let s₀ := start settings (.detail details.fetch)
    let first := [.prepare "a" "productid:*P*" false, .bucket .weekly]
    let second := first ++ [.run "a", .prepare "b" "productid:*P*" false,
      .prepare "c" "productid:*P*" false]
    let s := s₀.run service.search first
    let s' := s₀.run service.search second
    (∃ p found, s.Finds 3 service (.run "a") p found) ∧
    (s.step service.search (.run "a")).1.detailRequests = s.detailRequests ++ [(.daily, 2)] ∧
    (∀ p found, ¬ s'.Finds 3 service (.run "b") p found) ∧
    (s'.step service.search (.run "b")).1.detailRequests = s'.detailRequests ∧
    ∀ entry ∈ s'.detailRequests, 1 ≤ entry.2 := by
  intro key service details settings s₀ first second s s'
  let p : Pending .forecast := ⟨1, "productid:*P*", 3, .daily, false, .detail details.fetch⟩
  have hfinds : s.Finds 3 service (.run "a") p [key "P2", key "P1", key "P2"] :=
    ⟨⟨s.screen.desk, rfl, rfl⟩, ⟨_, rfl, rfl⟩, List.cons_ne_nil _ _⟩
  have hnone : ∀ q found, ¬ s'.Finds 3 service (.run "b") q found := by
    rintro q found ⟨⟨desk, hruns, hopen⟩, -, -⟩
    cases hruns
    cases hopen
  have hfirst := detailRequests_minimal settings details.fetch service first
  have hsecond := detailRequests_minimal settings details.fetch service second
  exact ⟨⟨p, _, hfinds⟩, hfirst.2.1 _ p _ hfinds, hnone, hsecond.2.2.1 _ hnone,
    fun entry h => (hsecond.2.2.2 entry h).2⟩

end Session

end PlanningSearch
