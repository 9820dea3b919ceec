import PlanningSearch.Proofs.Query.Applicability
import PlanningSearch.Proofs.Screen.Snapshot

/-!
What a master screen asks the search service. A form runs at most one query, and the screens of a
domain have three ways to one: a typed term is written behind a token of the domain, criteria are
compiled with fields of the domain, and a saved query is checked before it is run again. So every
query issued applies to the domain, and a form that is refused or has nothing to run issues none.
-/

namespace PlanningSearch

variable {t : Table}

namespace Event

/-- The operations of a domain's master screen that do not take a query as it is: forms, saved
searches, snapshots and the view. -/
def guarded (d : Domain) : Event t → Bool
  | .query _ _ | .prepare _ _ _ | .run _ | .apply _ | .fields _ _ _ | .bucket _ => false
  | .typed d' _ _ => d' == d
  | _ => true

def blank : Event t → Bool
  | .criteria cs => cs.all Criterion.blank
  | .typed _ _ term => Text.blank term
  | _ => false

theorem turn?_of_blank {s : Screen t} {e : Event t} (h : e.blank = true) :
    e.turn? s = some .empty := by
  cases e with
  | criteria cs =>
    have hblank := Query.compileChecked_blank s.source.domain? (List.all_eq_true.mp h)
    simp only [turn?, Screen.criteriaTurn, hblank]
  | typed d uiField term =>
    have hblank : Text.blank term = true := h
    simp only [turn?, Screen.typedTurn, if_pos hblank]
  | _ => cases h

end Event

def Turn.query? : Turn → Option String
  | .search query _ => some query
  | _ => none

theorem Source.isDetail_of_domain? {source : Source t} {d : Domain} (h : source.domain? = some d) :
    source.isDetail = false := by
  cases source with
  | snapshot => rfl
  | keys => rfl
  | detail => cases h

theorem Source.domain?_withRows (source : Source t) (rows : List (Row t)) :
    (source.withRows rows).domain? = source.domain? := by
  cases source <;> rfl

theorem Pending.asked_run {p : Pending t} (h : p.source.isDetail = false) (backend : Backend)
    (overtaken : Bool) : (p.run backend overtaken).2 = [.search p.query] := by
  have hasks (found : List Key) : p.source.asks p.bucket found = [] := by
    cases hs : p.source with
    | detail => rw [hs] at h; cases h
    | _ => rfl
  simp only [run, resolve]
  split
  · rfl
  · split
    · rfl
    · split
      · rfl
      · rw [hasks]

variable [Text.Order] in
theorem Turn.asked_take {s : Screen t} (h : s.source.isDetail = false) (backend : Backend)
    (turn : Turn) : (turn.take backend s).asked = turn.query?.toList.map .search := by
  cases turn with
  | search query flag =>
    rw [take, Screen.runQuery_eq]
    exact Pending.asked_run h backend false
  | _ => rfl

theorem Domain.mem_tokens_of_require {d : Domain} {name token : String}
    (h : d.require name = .ok token) : token ∈ d.tokens := by
  unfold require resolve? at h
  split at h
  · rename_i hfound
    cases h
    obtain ⟨f, hf, rfl⟩ := Option.map_eq_some_iff.mp hfound
    exact List.mem_map_of_mem (List.mem_of_find?_eq_some hf)
  · cases h

namespace Screen

variable {s : Screen t} {d : Domain} {query : String}

theorem appliesTo_of_typedTurn {uiField term : String}
    (h : (typedTurn d uiField term).query? = some query) : d.appliesTo query = true := by
  unfold typedTurn at h
  split at h
  · cases h
  · split at h
    · cases h
    · rename_i token htoken
      cases hfragment : Query.fragment token term with
      | none => simp [hfragment, Turn.query?] at h
      | some written =>
        obtain rfl : written = query := by simpa [hfragment, Turn.query?] using h
        exact Query.appliesTo_fragment (d.mem_tokens_of_require htoken) hfragment

theorem appliesTo_of_criteriaTurn (hs : s.source.domain? = some d) {cs : List Criterion}
    (h : (s.criteriaTurn cs).query? = some query) : d.appliesTo query = true := by
  unfold criteriaTurn at h
  rw [hs] at h
  split at h
  · rename_i hcompile
    cases h
    exact Query.appliesTo_of_compileChecked_some hcompile
  · cases h
  · cases h

theorem savedTurn_of_selected (hs : s.source.domain? = some d) (hq : s.selectedQuery = some query) :
    s.savedTurn = if d.appliesTo query then .search query s.settings.flagEmptySaved
      else .refuse (.inapplicable d) := by
  unfold savedTurn
  rw [hq, hs]
  cases happlies : d.appliesTo query <;> simp [Option.filter, happlies]

theorem appliesTo_of_savedTurn (hs : s.source.domain? = some d)
    (h : s.savedTurn.query? = some query) : d.appliesTo query = true := by
  cases hq : s.selectedQuery with
  | none =>
    rw [savedTurn, hq] at h
    cases h
  | some saved =>
    rw [savedTurn_of_selected hs hq] at h
    by_cases happlies : d.appliesTo saved = true
    · rw [if_pos happlies] at h
      cases h
      exact happlies
    · rw [if_neg happlies] at h
      cases h

end Screen

namespace Session

variable (backend : Backend) {s : Session t} {d : Domain}

section

variable [Text.Order]

theorem asked_step_of_turn (hs : s.screen.source.isDetail = false) {e : Event t} {turn : Turn}
    (h : e.turn? s.screen = some turn) :
    (s.step backend e).1.asked = s.asked ++ turn.query?.toList.map .search := by
  have hentered : (e.entered s.screen).source.isDetail = false := by
    rw [e.entered_source]
    exact hs
  rw [step_of_turn backend h, after, Turn.asked_take hentered]

theorem asked_step_of_guarded {e : Event t} (he : e.guarded d = true)
    (h : e.turn? s.screen = none) : (s.step backend e).1.asked = s.asked := by
  cases e with
  | query | criteria | typed | fields | loadSaved | bucket => cases h
  | prepare | run | apply => cases he
  | _ => rfl

omit [Text.Order] in
theorem appliesTo_of_turn (hs : s.screen.source.domain? = some d) {e : Event t}
    (he : e.guarded d = true) {turn : Turn} (h : e.turn? s.screen = some turn) {query : String}
    (hquery : turn.query? = some query) : d.appliesTo query = true := by
  cases e with
  | criteria cs =>
    cases h
    exact Screen.appliesTo_of_criteriaTurn hs hquery
  | typed d' uiField term =>
    cases h
    obtain rfl : d' = d := eq_of_beq he
    exact Screen.appliesTo_of_typedTurn hquery
  | loadSaved =>
    cases h
    exact Screen.appliesTo_of_savedTurn hs hquery
  | query | fields | bucket => cases he
  | _ => cases h

theorem domain?_step (s : Session t) (e : Event t) :
    (s.step backend e).1.screen.source.domain? = s.screen.source.domain? := by
  rw [(step_stays backend s e).source]
  cases e.loaded? with
  | none => rfl
  | some rows => exact s.screen.source.domain?_withRows rows

structure Confined (d : Domain) (s : Session t) : Prop where
  domain : s.screen.source.domain? = some d
  asked : ∀ r ∈ s.asked, ∃ query, r = .search query ∧ d.appliesTo query = true

theorem step_confined (h : s.Confined d) {e : Event t} (he : e.guarded d = true) :
    (s.step backend e).1.Confined d := by
  refine ⟨(domain?_step backend s e).trans h.domain, fun r hr => ?_⟩
  cases hturn : e.turn? s.screen with
  | none =>
    rw [asked_step_of_guarded backend he hturn] at hr
    exact h.asked r hr
  | some turn =>
    rw [asked_step_of_turn backend (Source.isDetail_of_domain? h.domain) hturn] at hr
    rcases List.mem_append.mp hr with hold | hnew
    · exact h.asked r hold
    · obtain ⟨query, hquery, rfl⟩ := List.mem_map.mp hnew
      exact ⟨query, rfl, appliesTo_of_turn h.domain he hturn (Option.mem_toList.mp hquery)⟩

theorem run_confined (h : s.Confined d) {events : List (Event t)}
    (he : ∀ e ∈ events, e.guarded d = true) : (s.run backend events).Confined d := by
  induction events generalizing s with
  | nil => exact h
  | cons e events ih =>
    obtain ⟨hfirst, hrest⟩ := List.forall_mem_cons.mp he
    exact ih (step_confined backend h hfirst) hrest

theorem asked_of_answer_false (hs : s.screen.source.isDetail = false) {e : Event t}
    (he : e.guarded d = true) (h : (s.step backend e).2 = .flag false) :
    (s.step backend e).1.asked = s.asked := by
  cases hturn : e.turn? s.screen with
  | none => exact asked_step_of_guarded backend he hturn
  | some turn =>
    rw [asked_step_of_turn backend hs hturn]
    cases turn with
    | search query flag =>
      -- a query that is run never answers false
      rw [step_of_turn backend hturn, Turn.take, Screen.runQuery_eq] at h
      cases h
    | _ => exact List.append_nil s.asked

/-- Whatever a domain's master screen is used for, each query that it issues applies to the domain,
and nothing but queries is asked for. An operation with only blank values, one that is refused and
one that answers false for any other reason make no request. -/
theorem issued_appliesTo (settings : ScreenSettings) (first : List (Row d.table))
    {events : List (Event d.table)} (he : ∀ e ∈ events, e.guarded d = true) :
    let s := (start settings (.master d first)).run backend events
    (∀ query ∈ s.issued, d.appliesTo query = true) ∧ s.detailRequests = [] ∧
    ∀ e : Event d.table, e.guarded d = true →
      (e.blank = true ∨ (∃ err, e.turn? s.screen = some (.refuse err)) ∨
        (s.step backend e).2 = .flag false) →
      (s.step backend e).1.asked = s.asked := by
  intro s
  have hstart : (start settings (.master d first)).Confined d :=
    ⟨rfl, fun _ h => absurd h List.not_mem_nil⟩
  have hs : s.Confined d := run_confined backend hstart he
  have hsource : s.screen.source.isDetail = false := Source.isDetail_of_domain? hs.domain
  refine ⟨fun query hquery => ?_, ?_, fun e hguarded hidle => ?_⟩
  · obtain ⟨r, hr, hsome⟩ := List.mem_filterMap.mp hquery
    obtain ⟨query', rfl, happlies⟩ := hs.asked r hr
    cases hsome
    exact happlies
  · refine List.filterMap_eq_nil_iff.mpr fun r hr => ?_
    obtain ⟨query, rfl, -⟩ := hs.asked r hr
    rfl
  · have of_turn {turn : Turn} (h : e.turn? s.screen = some turn) (hnone : turn.query? = none) :
        (s.step backend e).1.asked = s.asked := by
      rw [asked_step_of_turn backend hsource h, hnone]
      exact List.append_nil s.asked
    rcases hidle with hblank | ⟨err, hrefused⟩ | hfalse
    · exact of_turn (e.turn?_of_blank hblank) rfl
    · exact of_turn hrefused rfl
    · exact asked_of_answer_false backend hsource hguarded hfalse

end

theorem issued_appliesTo_of_saved_queries :
    let saved (query : String) : SavedSearch := ⟨none, "mine", query, none⟩
    let events : List (Event (Domain.table .channel)) :=
      [.typed .channel " Level " "geography:x", .criteria [⟨"ChannelID", "C1", none⟩],
        .refreshSaved (.ok [saved "geography:*North*", saved "geography:*N* OR ChannelID:C?"]),
        .select (some 0), .loadSaved, .select (some 1), .loadSaved,
        .criteria [⟨"isnew", "x", none⟩]]
    let s := (start (.usual .channel) (.master .channel [])).run
      (fun _ _ _ => .error (.collaborator "offline")) events
    (∀ e ∈ events, e.guarded .channel = true) ∧
    s.issued =
      ["channellevel:\"*geography:x*\"", "channelid:*C1*", "geography:*N* OR ChannelID:C?"] ∧
    ∀ query ∈ s.issued, Domain.channel.appliesTo query = true := by
  intro saved events s
  have he : ∀ e ∈ events, e.guarded .channel = true := by decide
  exact ⟨he, by decide, (issued_appliesTo _ (.usual .channel) [] he).1⟩

end Session

end PlanningSearch
