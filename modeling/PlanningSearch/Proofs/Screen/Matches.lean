import PlanningSearch.Proofs.Reconcile
import PlanningSearch.Proofs.Screen.Snapshot
import PlanningSearch.Proofs.View.StableSort

/-!
A search shows exactly the matching rows. With services held in memory, the rows on a screen after
a query are those that the first keys of its answer name, whatever searches, filters and sort order
came before; the rows shown are the ones that pass the filters, sorted stably, from the first page
on. A failure at any stage leaves the rows as they were.
-/

namespace PlanningSearch

variable {t : Table}

def SearchService.stored (s : SearchService) (query : String) : Except String (List Key) :=
  ((s.answers.find? fun a => a.1 == query).map Prod.snd).getD (.ok [])

namespace SearchService

variable {s : SearchService} {query : String}

theorem search_of_failure {m : String} (h : s.stored query = .error m) (limit offset : UInt64) :
    s.search query limit offset = .error (.collaborator m) := by
  unfold stored at h
  unfold search
  generalize (s.answers.find? fun a => a.1 == query).map Prod.snd = answer at h ⊢
  rcases answer with _ | m' | keys <;> cases h
  rfl

theorem search_of_keys {keys : List Key} (h : s.stored query = .ok keys) (limit : UInt64) :
    ∃ found, s.search query limit 0 = .ok found ∧ found.keys = keys.take limit.toNat := by
  unfold stored at h
  unfold search
  generalize (s.answers.find? fun a => a.1 == query).map Prod.snd = answer at h ⊢
  rcases answer with _ | m' | keys' <;> cases h
  · exact ⟨_, rfl, rfl⟩
  · exact ⟨_, rfl, rfl⟩

end SearchService

theorem DetailService.fetch_eq (s : DetailService t) (b : Bucket) (keys : List Key) :
    s.fetch b keys = failing s.failure
      ((s.stored b).filter fun r => decide (∃ k ∈ keys, r.triple = Row.triple k)) := by
  refine congrArg (failing s.failure) (List.filter_congr fun r _ => ?_)
  rw [Bool.eq_iff_iff, List.contains_iff_mem, List.mem_map, decide_eq_true_eq]
  simp only [eq_comm]

theorem Source.resolve_detail (fetch : Bucket → List Key → Except SearchError (List (Row t)))
    (b : Bucket) {found : List Key} (h : found ≠ []) :
    (detail fetch).resolve b found = fetch b (distinctKeys found) := by
  have hdistinct := distinctKeys_ne_nil h
  unfold resolve
  cases hk : distinctKeys found with
  | nil => exact absurd hk hdistinct
  | cons k ks => simp

inductive Supply : Table → Type where
  | master (d : Domain) (first : List (Row d.table)) : Supply d.table
  | keys : Supply .key
  | details {t : Table} (service : DetailService t) : Supply t

namespace Supply

def source : Supply t → Source t
  | master d first => .master d first
  | keys => .keys id
  | details service => .detail service.fetch

def failure : Supply t → Option String
  | master _ _ => none
  | keys => none
  | details service => service.failure

/-- The rows named by a list of keys: the rows of the snapshot with the identifier of some key, the
keys themselves in order of first occurrence, or the stored rows of a bucket with the product,
channel and location of some key. -/
def Names (snapshot : List (Row t)) (b : Bucket) (found : List Key) (rows : List (Row t)) :
    Supply t → Prop
  | master d _ => rows = snapshot.filter fun r => decide (∃ k ∈ found, r.text d.idColumn = k.id d)
  | keys => (∀ k, k ∈ rows ↔ k ∈ found) ∧
      rows.Pairwise fun a b => List.idxOf a found < List.idxOf b found
  | details service =>
      rows = (service.stored b).filter fun r => decide (∃ k ∈ found, r.triple = Row.triple k)

theorem resolve_withRows (supply : Supply t) (snapshot : List (Row t)) (b : Bucket)
    {found : List Key} (hfound : found ≠ []) :
    (∀ m, supply.failure = some m →
      (supply.source.withRows snapshot).resolve b found = .error (.collaborator m)) ∧
    (supply.failure = none → ∃ rows,
      (supply.source.withRows snapshot).resolve b found = .ok rows ∧
        supply.Names snapshot b found rows) := by
  cases supply with
  | master d first =>
    refine ⟨nofun, fun _ => ⟨_, rfl, ?_⟩⟩
    exact reconcile_eq_filter found (fun k => k.id d) (fun r => r.text d.idColumn) snapshot
  | keys =>
    refine ⟨nofun, fun _ => ⟨_, rfl, ?_⟩⟩
    rw [List.map_id]
    exact ⟨fun k => mem_distinctKeys, distinctKeys_pairwise found⟩
  | details service =>
    have hfetch := Source.resolve_detail service.fetch b hfound
    have hrows := service.fetch_eq b (distinctKeys found)
    simp only [mem_distinctKeys] at hrows
    refine ⟨fun m h => ?_, fun h => ⟨_, ?_, rfl⟩⟩
    · change service.failure = some m at h
      rw [h] at hrows
      exact hfetch.trans hrows
    · change service.failure = none at h
      rw [h] at hrows
      exact hfetch.trans hrows

end Supply

variable [Text.Order] in
/-- The rows of the second view are shown with the filters and the order of the first one: those
that pass, sorted stably, from the first page on. -/
structure View.Reloads (v v' : View t) : Prop where
  filters : v'.filters = v.filters
  order : v'.order = v.order
  sorted : SortOrder.StablySorted v.order
    (v'.all.filter fun r => decide (∀ f ∈ v.filters, f.keeps r = true)) v'.shown
  page : v'.page = 1

variable [Text.Order] in
theorem View.load_reloads (v : View t) (rows : List (Row t)) : v.Reloads (v.load rows) where
  filters := rfl
  order := rfl
  sorted := by
    have hpasses : passes v.filters = fun r => decide (∀ f ∈ v.filters, f.keeps r = true) := by
      funext r
      rw [Bool.eq_iff_iff, passes, List.all_eq_true, decide_eq_true_eq]
    rw [← hpasses]
    exact SortOrder.stablySorted_sort v.order (rows.filter (passes v.filters))
  page := rfl

namespace Screen

variable {s : Screen t} {supply : Supply t} (hs : s.source = supply.source.withRows s.source.rows)
  {service : SearchService} {query : String} (flag : Bool) {keys : List Key}

variable [Text.Order]

theorem runQuery_of_stored_failure {m : String} (h : service.stored query = .error m) :
    (s.runQuery service.search query flag).screen.view = s.view ∧
      (s.runQuery service.search query flag).screen.status = .failed :=
  runQuery_of_error (Pending.resolve_of_error (service.search_of_failure h _ 0))

theorem runQuery_of_no_keys (h : service.stored query = .ok keys)
    (hfound : keys.take s.settings.searchLimit.toNat = []) :
    (s.runQuery service.search query flag).screen.view = s.view.load [] ∧
      (s.runQuery service.search query flag).screen.status = .loaded := by
  obtain ⟨found, hsearch, hkeys⟩ := service.search_of_keys h s.settings.searchLimit
  exact runQuery_of_ok (Pending.resolve_of_no_keys hsearch (hkeys.trans hfound))

include hs

theorem runQuery_of_fetch_failure (h : service.stored query = .ok keys)
    (hfound : keys.take s.settings.searchLimit.toNat ≠ []) {m : String}
    (hfailure : supply.failure = some m) :
    (s.runQuery service.search query flag).screen.view = s.view ∧
      (s.runQuery service.search query flag).screen.status = .failed := by
  obtain ⟨found, hsearch, hkeys⟩ := service.search_of_keys h s.settings.searchLimit
  have hfetch := (supply.resolve_withRows s.source.rows s.bucket hfound).1 m hfailure
  rw [← hs, ← hkeys] at hfetch
  refine runQuery_of_error (e := .collaborator m) ?_
  exact (Pending.resolve_of_keys hsearch (hkeys ▸ hfound)).trans
    (congrArg (Except.map Resolution.rows) hfetch)

theorem runQuery_of_keys (h : service.stored query = .ok keys)
    (hfound : keys.take s.settings.searchLimit.toNat ≠ []) (hfailure : supply.failure = none) :
    ∃ rows, supply.Names s.source.rows s.bucket (keys.take s.settings.searchLimit.toNat) rows ∧
      (s.runQuery service.search query flag).screen.view = s.view.load rows ∧
      (s.runQuery service.search query flag).screen.status = .loaded := by
  obtain ⟨found, hsearch, hkeys⟩ := service.search_of_keys h s.settings.searchLimit
  obtain ⟨rows, hfetch, hnames⟩ :=
    (supply.resolve_withRows s.source.rows s.bucket hfound).2 hfailure
  rw [← hs, ← hkeys] at hfetch
  refine ⟨rows, hnames, runQuery_of_ok (r := .rows rows) ?_⟩
  exact (Pending.resolve_of_keys hsearch (hkeys ▸ hfound)).trans
    (congrArg (Except.map Resolution.rows) hfetch)

end Screen

namespace Session

variable [Text.Order] in
/-- A query that a service held in memory answers, run on a screen in any state. When the search
fails, or the rows of the keys found cannot be fetched, the view stays. When there are no keys
within the limit of the screen, no rows are left. Otherwise the rows are those that the keys name,
and they are shown with the filters and the order that the view had. -/
theorem runQuery_shows_matches (backend : Backend) (supply : Supply t) (service : SearchService)
    (settings : ScreenSettings) (events : List (Event t)) (query : String) (flag : Bool) :
    let s := ((start settings supply.source).run backend events).screen
    let r := (s.runQuery service.search query flag).screen
    (∀ m, service.stored query = .error m → r.view = s.view ∧ r.status = .failed) ∧
    ∀ keys, service.stored query = .ok keys →
      let found := keys.take settings.searchLimit.toNat
      (found ≠ [] → ∀ m, supply.failure = some m → r.view = s.view ∧ r.status = .failed) ∧
      (found = [] → r.view.all = [] ∧ s.view.Reloads r.view ∧ r.status = .loaded) ∧
      (found ≠ [] → supply.failure = none →
        supply.Names s.source.rows s.bucket found r.view.all ∧ s.view.Reloads r.view ∧
          r.status = .loaded) := by
  intro s r
  obtain ⟨hsettings, hsource⟩ := run_settings_source backend settings supply.source events
  have hs : s.source = supply.source.withRows s.source.rows := by
    rw [hsource, Source.withRows_rows_self]
  refine ⟨fun m h => Screen.runQuery_of_stored_failure flag h, ?_⟩
  intro keys h found
  have hlimit : keys.take s.settings.searchLimit.toNat = found :=
    congrArg (fun c : ScreenSettings => keys.take c.searchLimit.toNat) hsettings
  rw [← hlimit]
  refine ⟨fun hfound m hm => ?_, fun hfound => ?_, fun hfound hnone => ?_⟩
  · exact Screen.runQuery_of_fetch_failure hs flag h hfound hm
  · obtain ⟨hview, hstatus⟩ := Screen.runQuery_of_no_keys flag h hfound
    rw [hview]
    exact ⟨rfl, s.view.load_reloads [], hstatus⟩
  · obtain ⟨rows, hnames, hview, hstatus⟩ := Screen.runQuery_of_keys hs flag h hfound hnone
    rw [hview]
    exact ⟨hnames, s.view.load_reloads rows, hstatus⟩

theorem runQuery_shows_matches_of_weekly_history :
    let row (product channel quantity : String) : Row .history :=
      ⟨#v[product, channel, "L1", "", "", "", quantity, "", ""]⟩
    let service := (({} : SearchService).answer "productid:*P*"
      [Key.ofParts "P2" "C1" "L1", Key.ofParts "P1" "C1" "L1", Key.ofParts "P1" "C2" "L1"]).fail
        "isnew:*Yes*" "Search index unavailable"
    let details : DetailService .history :=
      { rows := [(.daily, [row "P1" "C1" "1"]),
          (.weekly, [row "P1" "C1" "7", row "P1" "C2" "8", row "P2" "C1" "9", row "P3" "C1" "7"])] }
    let settings := { ScreenSettings.usual .history with searchLimit := 2 }
    let s := ((start settings (Supply.details details).source).run service.search
      [.bucket .weekly, .filterExactly [("Qty", "7")]]).screen
    let r := (s.runQuery service.search "productid:*P*" false).screen
    let failed := (s.runQuery service.search "isnew:*Yes*" false).screen
    (Supply.details details).Names s.source.rows .weekly
      [Key.ofParts "P2" "C1" "L1", Key.ofParts "P1" "C1" "L1"] r.view.all ∧
    r.view.all = [row "P1" "C1" "7", row "P2" "C1" "9"] ∧ r.view.shown = [row "P1" "C1" "7"] ∧
    failed.view = s.view ∧ failed.status = .failed := by
  intro row service details settings s r failed
  have hshows := runQuery_shows_matches service.search (.details details) service settings
    [.bucket .weekly, .filterExactly [("Qty", "7")]]
  have hrows := ((hshows "productid:*P*" false).2 _ rfl).2.2 (by decide) rfl
  exact ⟨hrows.1, by decide, by decide, (hshows "isnew:*Yes*" false).1 _ rfl⟩

end Session

end PlanningSearch
