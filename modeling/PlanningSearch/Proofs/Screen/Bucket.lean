import PlanningSearch.Proofs.Screen.Matches
import PlanningSearch.Proofs.Screen.Provenance

/-!
The bucket that a detail screen shows and names its exports after. The rows come from the detail
service for the bucket that the screen had when their search was prepared. A switch of the bucket
comes before the selected saved search is run again; where nothing is selected, or that search
fails, the rows of the old bucket stay under the new one. No other order of searches, failures and
switches parts the rows from the bucket.
-/

namespace PlanningSearch

variable {t : Table}

theorem Bucket.title_injective : Function.Injective title := by
  intro a b
  cases a <;> cases b <;> decide

theorem ScreenKind.exportName_inj {kind : ScreenKind} (h : kind = .history ∨ kind = .forecast)
    {a b : Bucket} : kind.exportName a = kind.exportName b ↔ a = b := by
  refine ⟨fun hname => Bucket.title_injective ?_, congrArg kind.exportName⟩
  rcases h with rfl | rfl <;>
    exact String.append_right_inj _ |>.mp (String.append_left_inj _ |>.mp hname)

theorem Pending.RanAt.fetched {p : Pending t} {fetch : Details t} (hp : p.source = .detail fetch)
    {m : Moment t} {o : Outcome t} (h : p.RanAt m o) {rows : List (Row t)}
    (hr : o.result = .ok (.rows rows)) :
    ∃ found, m.backend p.query p.limit 0 = .ok found ∧
      m.details p.bucket (distinctKeys found.keys) = .ok rows := by
  obtain ⟨overtaken, rfl⟩ := h
  obtain ⟨found, hsearch, hkeys, hrows⟩ := resolve_eq_rows hr
  have hsource : (p.consulting m.details).source = .detail m.details :=
    congrArg (Source.consulting · m.details) hp
  rw [hsource, Source.resolve_detail _ _ hkeys] at hrows
  exact ⟨found, hsearch, hrows⟩

namespace Session

section

variable [Text.Order]

theorem step_bucket (backend : Backend) (s : Session t) (e : Event t) :
    (s.step backend e).1.screen.bucket = (e.entered s.screen).bucket := by
  have of_turn {turn : Turn} (h : e.turn? s.screen = some turn) :
      (s.step backend e).1.screen.bucket = (e.entered s.screen).bucket := by
    rw [step_of_turn backend h]
    exact (turn.take_keeps backend (e.entered s.screen)).bucket
  cases e with
  | query | criteria | loadSaved | typed | fields | bucket => exact of_turn rfl
  | run slot =>
    cases htake : takeSlot slot s.prepared with
    | none => rw [step_run_none backend htake]; rfl
    | some taken => rw [step_run backend htake]; rfl
  | apply slot =>
    cases htake : takeSlot slot s.outcomes with
    | none => rw [step_apply_none backend htake]; rfl
    | some taken => rw [step_apply backend htake]; exact (s.screen.apply_keeps taken.1).bucket
  | refreshSaved listing => cases listing <;> rfl
  | loadMaster listing => cases listing <;> rfl
  | prepare | select | filterContaining | filterExactly | clearFilters | sort | goTo => rfl

theorem bucket_source_of_starts? {s : Session t} {m : Moment t} {p : Pending t}
    (h : s.starts? m = some p) :
    p.bucket = (s.advance m).1.screen.bucket ∧
      p.source = s.screen.source.consulting m.details := by
  obtain ⟨query, flag, rfl⟩ := Event.starts?_eq_some h
  refine ⟨?_, m.event.entered_source _⟩
  rw [advance, step_bucket]
  rfl

theorem live_settings_source (settings : ScreenSettings) (first : Details t)
    (moments : List (Moment t)) :
    let s := (start settings (.detail first)).live moments
    s.screen.settings = settings ∧ ∃ fetch, s.screen.source = .detail fetch := by
  induction moments using List.reverseRecOn with
  | nil => exact ⟨rfl, first, rfl⟩
  | append_singleton moments m ih =>
    obtain ⟨hsettings, fetch, hsource⟩ := ih
    have hstays := step_stays m.backend
      (((start settings (.detail first)).live moments).consulting m.details) m.event
    have hdetail : (((start settings (.detail first)).live moments).consulting
        m.details).screen.source = .detail m.details :=
      congrArg (Source.consulting · m.details) hsource
    rw [live_concat]
    refine ⟨hstays.settings.trans hsettings, m.details, hstays.source.trans ?_⟩
    rw [hdetail]
    cases m.event.loaded? <;> rfl

/-- A moment switches the bucket without new rows for it: no saved search is selected, or it is run
again and fails. -/
structure Strands (s : Session t) (m : Moment t) : Prop where
  switches : (s.advance m).1.screen.bucket ≠ s.screen.bucket
  unanswered : s.screen.selectedQuery = none ∨ (s.advance m).1.screen.status = .failed

instance (s : Session t) (m : Moment t) : Decidable (s.Strands m) :=
  decidable_of_iff ((s.advance m).1.screen.bucket ≠ s.screen.bucket ∧
      (s.screen.selectedQuery = none ∨ (s.advance m).1.screen.status = .failed))
    ⟨fun h => ⟨h.1, h.2⟩, fun h => ⟨h.1, h.2⟩⟩

theorem not_strands_of_take {s₀ : Session t} {moments before rest : List (Moment t)} {m : Moment t}
    (h : ∀ i : Fin moments.length, ¬ (s₀.live (moments.take i)).Strands moments[i])
    (hsplit : moments = before ++ m :: rest) : ¬ (s₀.live before).Strands m := by
  subst hsplit
  simpa using h ⟨before.length, by simp⟩

theorem Retains.strands {s : Session t} {m : Moment t} (h : s.Retains m)
    (hbucket : (s.advance m).1.screen.bucket ≠ s.screen.bucket) : s.Strands m := by
  refine ⟨hbucket, ?_⟩
  rw [advance, step_bucket] at hbucket
  cases hevent : m.event with
  | bucket b =>
    cases hselected : s.screen.selectedQuery with
    | none => exact .inl rfl
    | some query =>
      refine .inr (h query false ?_)
      rw [hevent, Event.turn?, Screen.bucketTurn]
      change some ((s.screen.selectedQuery.map _).getD _) = _
      rw [hselected]
      rfl
  | _ =>
    rw [hevent] at hbucket
    exact absurd rfl hbucket

theorem bucket_live (s : Session t) (moments : List (Moment t)) :
    (s.live moments).screen.bucket = s.screen.bucket ∨
      ∃ mid m rest, moments = mid ++ m :: rest ∧
        ((s.live mid).advance m).1.screen.bucket ≠ (s.live mid).screen.bucket := by
  induction moments generalizing s with
  | nil => exact .inl rfl
  | cons m moments ih =>
    by_cases hm : (s.advance m).1.screen.bucket = s.screen.bucket
    · rcases ih (s.advance m).1 with hsame | ⟨mid, switch, rest, rfl, hswitch⟩
      · exact .inl (hsame.trans hm)
      · exact .inr ⟨m :: mid, switch, rest, rfl, hswitch⟩
    · exact .inr ⟨[], m, moments, rfl, hm⟩

/-- The rows of a detail screen are those that the detail service answered for the keys of a search
and for the bucket that the screen had when that search was prepared. This is still the bucket of
the screen, unless a switch to another bucket since then left the rows behind. The name of an
export of history or forecast rows names the bucket of the screen and no other. -/
theorem rows_fetched_for_bucket (settings : ScreenSettings) (first : Details t)
    (moments : List (Moment t)) :
    let s₀ := start settings (.detail first)
    let s := s₀.live moments
    (settings.kind = .history ∨ settings.kind = .forecast → ∀ b,
      s.screen.exportName = settings.kind.exportName b ↔ b = s.screen.bucket) ∧
    (s.screen.view.all ≠ [] → ∃ before m after p,
      moments = before ++ m :: after ∧ (s₀.live before).starts? m = some p ∧
      p.bucket = (s₀.live (before ++ [m])).screen.bucket ∧
      (∃ m' ∈ m :: after, ∃ found, m'.backend p.query p.limit 0 = .ok found ∧
        m'.details p.bucket (distinctKeys found.keys) = .ok s.screen.view.all) ∧
      (p.bucket = s.screen.bucket ∨ ∃ mid m' rest, after = mid ++ m' :: rest ∧
        (s₀.live (before ++ m :: mid)).Strands m')) := by
  intro s₀ s
  refine ⟨fun hkind b => ?_, fun hrows => ?_⟩
  · have hsettings : s.screen.settings = settings :=
      (live_settings_source settings first moments).1
    rw [Screen.exportName, hsettings, ScreenKind.exportName_inj hkind, eq_comm]
  · obtain ⟨p, _, ⟨before, m, after, hsplit, rfl, hstarts, hretains⟩, m', hm', o, hran, hresult⟩ :=
      (live_sourced settings (.detail first) moments).shown hrows
    obtain ⟨hbucket, hsource⟩ := bucket_source_of_starts? hstarts
    obtain ⟨-, fetch, hdetail⟩ := live_settings_source settings first before
    rw [hdetail] at hsource
    rw [← live_concat] at hbucket
    refine ⟨before, m, after, p, hsplit, hstarts, hbucket,
      ⟨m', hm', hran.fetched hsource hresult⟩, ?_⟩
    have hlive (mid : List (Moment t)) :
        s₀.live (before ++ m :: mid) = (s₀.live (before ++ [m])).live mid := by
      rw [← live_append, List.append_assoc, List.singleton_append]
    rcases bucket_live (s₀.live (before ++ [m])) after with hsame | ⟨mid, switch, rest, hafter, hne⟩
    · rw [← hlive, ← hsplit] at hsame
      exact .inl (hbucket.trans hsame.symm)
    · rw [← hlive] at hne
      exact .inr ⟨mid, switch, rest, hafter, (hretains mid switch rest hafter).strands hne⟩

end

theorem rows_fetched_for_bucket_of_weekly_rerun :
    let row (period : String) : Row .history :=
      ⟨#v["P1", "C1", "L1", "", "", period, "7", "", ""]⟩
    let service := (({} : SearchService).answer "productid:*P1*" [Key.ofParts "P1" "C1" "L1"]).fail
      "productid:*P2*" "Search index unavailable"
    let details : DetailService .history :=
      { rows := [(.daily, [row "2024-01-01"]), (.weekly, [row "2024-W01", row "2024-W02"])] }
    let moment (e : Event .history) : Moment .history := ⟨e, service.search, details.fetch⟩
    let moments := [moment (.refreshSaved (.ok [⟨none, "P1", "productid:*P1*", none⟩])),
      moment (.select (some 0)), moment .loadSaved, moment (.prepare "a" "productid:*P2*" false),
      moment (.run "a"), moment (.apply "a"), moment (.bucket .weekly)]
    let s := (start (.usual .history) (.detail details.fetch)).live moments
    s.screen.view.all = [row "2024-W01", row "2024-W02"] ∧
    (∀ b, s.screen.exportName = ScreenKind.history.exportName b ↔ b = .weekly) ∧
    ∃ p : Pending .history, p.bucket = .weekly ∧ ∃ m ∈ moments, ∃ found,
      m.backend p.query p.limit 0 = .ok found ∧
        m.details p.bucket (distinctKeys found.keys) = .ok s.screen.view.all := by
  intro row service details moment moments s
  have hbucket : s.screen.bucket = .weekly := by decide +kernel
  have hrows : s.screen.view.all = [row "2024-W01", row "2024-W02"] := by decide +kernel
  have hfine : ∀ i : Fin moments.length, ¬ ((start (.usual .history) (.detail details.fetch)).live
      (moments.take i)).Strands moments[i] := by
    decide +kernel
  obtain ⟨hname, hfetched⟩ := rows_fetched_for_bucket (.usual .history) details.fetch moments
  -- the final state stays closed from here on
  have hs : (start (.usual .history) (.detail details.fetch)).live moments = s := rfl
  clear_value s
  rw [hs] at hname hfetched
  obtain ⟨before, m, after, p, hsplit, -, -, ⟨m', hm', found, hfound⟩, hsame⟩ :=
    hfetched (hrows ▸ List.cons_ne_nil _ _)
  rw [← hbucket]
  refine ⟨hrows, hname (.inl rfl), p, ?_, m', ?_, found, hfound⟩
  · rcases hsame with hsame | ⟨mid, switch, rest, hafter, hstrands⟩
    · exact hsame
    · have hlast : moments = (before ++ m :: mid) ++ switch :: rest := by
        rw [hsplit, hafter, List.append_assoc, List.cons_append]
      exact absurd hstrands (not_strands_of_take hfine hlast)
  · rw [hsplit]
    exact List.mem_append_right before hm'

/-- The bucket is switched while no saved search is selected, and then while the selected one
fails: the daily rows stay under the name of the weekly and of the monthly bucket. -/
theorem bucket_without_its_rows :
    let row : Row .history := ⟨#v["P1", "C1", "L1", "", "", "2024-01-01", "7", "", ""]⟩
    let service := (({} : SearchService).answer "productid:*P1*" [Key.ofParts "P1" "C1" "L1"]).fail
      "productid:*P2*" "Search index unavailable"
    let details : DetailService .history := { rows := [(.daily, [row])] }
    let moment (e : Event .history) : Moment .history := ⟨e, service.search, details.fetch⟩
    let first := [moment (.query "productid:*P1*" false), moment (.bucket .weekly)]
    let second := [moment (.refreshSaved (.ok [⟨none, "P2", "productid:*P2*", none⟩])),
      moment (.select (some 0)), moment (.bucket .monthly)]
    let s := (start (.usual .history) (.detail details.fetch)).live first
    let s' := s.live second
    (s.screen.view.all = [row] ∧ s.screen.bucket = .weekly ∧
      s.screen.exportName = "Filtered_History_Weekly.csv" ∧
      ∀ m ∈ first, ∀ keys, m.details s.screen.bucket keys ≠ .ok s.screen.view.all) ∧
    (s'.screen.view.all = [row] ∧ s'.screen.bucket = .monthly ∧
      s'.screen.exportName = "Filtered_History_Monthly.csv" ∧
      ∀ m ∈ first ++ second, ∀ keys, m.details s'.screen.bucket keys ≠ .ok s'.screen.view.all) := by
  intro row service details moment first second s s'
  have hrows : s.screen.view.all = [row] := by decide +kernel
  have hrows' : s'.screen.view.all = [row] := by decide +kernel
  have hbucket : s.screen.bucket = .weekly := by decide +kernel
  have hbucket' : s'.screen.bucket = .monthly := by decide +kernel
  have hdetails : ∀ m ∈ first ++ second, m.details = details.fetch := by
    simp [first, second, moment]
  have hempty (keys : List Key) : details.fetch .weekly keys = .ok [] ∧
      details.fetch .monthly keys = .ok [] := ⟨rfl, rfl⟩
  refine ⟨⟨hrows, hbucket, by decide +kernel, fun m hm keys => ?_⟩,
    ⟨hrows', hbucket', by decide +kernel, fun m hm keys => ?_⟩⟩
  · rw [hrows, hbucket, hdetails m (List.mem_append_left _ hm), (hempty keys).1]
    nofun
  · rw [hrows', hbucket', hdetails m hm, (hempty keys).2]
    nofun

end Session

end PlanningSearch
