import PlanningSearch.Proofs.Settings.Names

/-!
The settings that layers give. Each setting has the value of the environment if the environment says
anything about it, else the value of the settings file, else its default, whatever the layers say
about other settings. A path into a setting turns it into a table, which does not convert. Loading
fails exactly when a value in force does not convert.
-/

namespace PlanningSearch.Settings

namespace Setting

def Value : Setting → Type
  | bind | logLevel | exportDir => String
  | masterSearchLimit | detailSearchLimit | keySearchLimit => UInt64
  | masterPageSize | detailPageSize => UInt64

def convert : (k : Setting) → Loose → Option k.Value
  | bind | logLevel | exportDir => Loose.toText?
  | masterSearchLimit | detailSearchLimit | keySearchLimit => Loose.toSize?
  | masterPageSize | detailPageSize => Loose.toSize?

def of : (k : Setting) → Settings → k.Value
  | bind => Settings.bind
  | logLevel => Settings.logLevel
  | masterSearchLimit => Settings.masterSearchLimit
  | detailSearchLimit => Settings.detailSearchLimit
  | keySearchLimit => Settings.keySearchLimit
  | masterPageSize => Settings.masterPageSize
  | detailPageSize => Settings.detailPageSize
  | exportDir => Settings.exportDir

def read (k : Setting) (value : Option Loose) : Option k.Value :=
  value.elim (some (k.of usual)) k.convert

def build (value : (k : Setting) → k.Value) : Settings where
  bind := value .bind
  logLevel := value .logLevel
  masterSearchLimit := value .masterSearchLimit
  detailSearchLimit := value .detailSearchLimit
  keySearchLimit := value .keySearchLimit
  masterPageSize := value .masterPageSize
  detailPageSize := value .detailPageSize
  exportDir := value .exportDir

theorem of_build (value : (k : Setting) → k.Value) (k : Setting) :
    k.of (build value) = value k := by
  cases k <;> rfl

end Setting

theorem converted_eq_ok_iff {convert : Loose → Option α} {default a : α} {name : String}
    {value : Option Loose} :
    converted convert default name value = .ok a ↔
      value.elim (some default) convert = some a := by
  cases value with
  | none => simp [converted]
  | some v => cases h : convert v <;> simp [converted, h]

theorem bind_eq_ok_iff {x : Except ε α} {f : α → Except ε β} {b : β} :
    x >>= f = .ok b ↔ ∃ a, x = .ok a ∧ f a = .ok b := by
  cases x <;> simp [Bind.bind, Except.bind]

theorem ofLayers_eq_ok_iff (environment file : Layer) (s : Settings) :
    ofLayers environment file = .ok s ↔
      ∀ k : Setting, k.read (inForce environment file k.name) = some (k.of s) := by
  simp only [ofLayers, bind_eq_ok_iff, converted_eq_ok_iff]
  constructor
  · rintro ⟨_, h1, _, h2, _, h3, _, h4, _, h5, _, h6, _, h7, _, h8, ⟨⟩⟩ k
    cases k with
    | bind => exact h1
    | logLevel => exact h2
    | masterSearchLimit => exact h3
    | detailSearchLimit => exact h4
    | keySearchLimit => exact h5
    | masterPageSize => exact h6
    | detailPageSize => exact h7
    | exportDir => exact h8
  · intro h
    exact ⟨_, h .bind, _, h .logLevel, _, h .masterSearchLimit, _, h .detailSearchLimit, _,
      h .keySearchLimit, _, h .masterPageSize, _, h .detailPageSize, _, h .exportDir, rfl⟩

theorem value?_cons (entry : String × Loose) (layer : Layer) (name : String) :
    Layer.value? (entry :: layer) name =
      if entry.1 = name then some entry.2 else layer.value? name := by
  by_cases h : entry.1 = name <;> simp [Layer.value?, h]

/-- What one source says about a setting. Of a value under the setting's own name and a path into
the setting either may count, since the order in which one source gives them is left open. -/
inductive Says (entries : Layer) (name : String) : Option Loose → Prop
  | own {v : Loose} (h : entries.value? name = some v) : Says entries name (some v)
  | path {entry : String × Loose} (hmem : entry ∈ entries) (h : Within name entry.1) :
    Says entries name (some .table)
  | silent (hown : entries.value? name = none)
    (hpath : ∀ entry ∈ entries, ¬ Within name entry.1) : Says entries name none

theorem says_placed {name : String} (hn : Plain name.toList) (entries : Layer) :
    Says entries name (Layer.value? (entries.map placed) name) := by
  induction entries with
  | nil => exact .silent rfl nofun
  | cons entry entries ih =>
    rw [List.map_cons, value?_cons]
    by_cases hpath : Within name entry.1
    · rw [placed_of_within hn hpath, if_pos rfl]
      exact .path List.mem_cons_self hpath
    · by_cases hown : entry.1 = name
      · rw [placed_of_own hn hown, if_pos hown]
        exact .own (by rw [value?_cons, if_pos hown])
      · rw [if_neg fun h => ((placed_fst_eq_iff hn).mp h).elim hown hpath]
        generalize Layer.value? (entries.map placed) name = value at ih
        cases ih with
        | own h => exact .own (by rw [value?_cons, if_neg hown, h])
        | path hmem h => exact .path (List.mem_cons_of_mem _ hmem) h
        | silent hnone hpaths =>
          exact .silent (by rw [value?_cons, if_neg hown, hnone])
            (List.forall_mem_cons.mpr ⟨hpath, hpaths⟩)

inductive InForce (environment file : Layer) (name : String) : Option Loose → Prop
  | environment {v : Loose} (h : Says environment name (some v)) :
    InForce environment file name (some v)
  | file {value : Option Loose} (henvironment : Says environment name none)
    (h : Says file name value) : InForce environment file name value

theorem inForce_placed {name : String} (hn : Plain name.toList) (environment file : Layer) :
    InForce environment file name
      (inForce (environment.map placed) (file.map placed) name) := by
  have henvironment := says_placed hn environment
  unfold inForce
  cases h : Layer.value? (environment.map placed) name with
  | some v => exact .environment (h ▸ henvironment)
  | none => exact .file (h ▸ henvironment) (says_placed hn file)

theorem value?_environmentEntries {name : String} (hn : Plain name.toList)
    (environment : List (String × String)) :
    (environmentEntries environment).value? name =
      (environment.reverse.find? fun v => Text.lower v.1 == environmentStart ++ name).map
        fun v => Loose.ofText v.2 := by
  unfold environmentEntries
  rw [← List.filterMap_reverse]
  induction environment.reverse with
  | nil => rfl
  | cons v vs ih =>
    by_cases hv : Text.lower v.1 = environmentStart ++ name
    · rw [List.filterMap_cons, (environmentName?_eq_some_iff hn v.1).mpr hv]
      simp [value?_cons, hv]
    · have hne : environmentName? v.1 ≠ some name :=
        fun h => hv ((environmentName?_eq_some_iff hn v.1).mp h)
      rw [List.find?_cons_of_neg (by simpa using hv), ← ih, List.filterMap_cons]
      cases hn : environmentName? v.1 with
      | none => rfl
      | some n =>
        rw [hn, ne_eq, Option.some.injEq] at hne
        simp [value?_cons, hne]

theorem exists_error_iff {x : Except ε α} : (∃ e, x = .error e) ↔ ∀ a, x ≠ .ok a := by
  cases x <;> simp

theorem exists_ofLayers_error_iff (environment file : Layer) :
    (∃ e, ofLayers environment file = .error e) ↔
      ∃ k : Setting, k.read (inForce environment file k.name) = none := by
  rw [exists_error_iff]
  constructor
  · intro hfail
    by_contra hread
    push Not at hread
    choose value hvalue using fun k => Option.ne_none_iff_exists'.mp (hread k)
    refine hfail (Setting.build value) ((ofLayers_eq_ok_iff _ _ _).mpr fun k => ?_)
    rw [hvalue, Setting.of_build]
  · rintro ⟨k, hnone⟩ s hok
    rw [(ofLayers_eq_ok_iff _ _ _).mp hok k] at hnone
    cases hnone

theorem load_eq_ofLayers {files : Files} {path : Option String} {entries : Layer}
    (hfile : fileEntries? files (path.getD defaultPath) = some entries)
    (environment : List (String × String)) :
    load files environment path = ofLayers (environmentLayer environment) (entries.map placed) := by
  unfold load fileLayer
  rw [hfile]
  rfl

def known (entries : Layer) : Layer := entries.filter fun entry => Known entry.1

theorem value?_known (k : Setting) (entries : Layer) :
    Layer.value? ((known entries).map placed) k.name =
      Layer.value? (entries.map placed) k.name := by
  induction entries with
  | nil => rfl
  | cons entry entries ih =>
    unfold known at ih ⊢
    by_cases hknown : Known entry.1
    · rw [List.filter_cons_of_pos (by simpa using hknown), List.map_cons, List.map_cons,
        value?_cons, value?_cons, ih]
    · have hne : (placed entry).1 ≠ k.name :=
        fun h => hknown ⟨k, (placed_fst_eq_iff k.plain).mp h⟩
      rw [List.filter_cons_of_neg (by simpa using hknown), List.map_cons, value?_cons,
        if_neg hne, ih]

theorem ofLayers_congr {environment file environment' file' : Layer}
    (h : ∀ k : Setting, inForce environment file k.name = inForce environment' file' k.name) :
    ofLayers environment file = ofLayers environment' file' := by
  have hvalue : ∀ name ∈ names,
      inForce environment file name = inForce environment' file' name := by
    intro name hname
    obtain ⟨k, rfl⟩ := mem_names_iff.mp hname
    exact h k
  simp only [names, List.forall_mem_cons] at hvalue
  obtain ⟨h1, h2, h3, h4, h5, h6, h7, h8, -⟩ := hvalue
  simp only [ofLayers, h1, h2, h3, h4, h5, h6, h7, h8]

theorem ofLayers_known (environment file : Layer) :
    ofLayers ((known environment).map placed) ((known file).map placed) =
      ofLayers (environment.map placed) (file.map placed) :=
  ofLayers_congr fun k => by rw [inForce, inForce, value?_known, value?_known]

/-- Each setting comes from the environment if it says anything about the setting, else from the
file, else it is the default, and nothing else that the sources say matters. -/
theorem load_reads_layers {files : Files} {path : Option String} {entries : Layer}
    (hfile : fileEntries? files (path.getD defaultPath) = some entries)
    (environment : List (String × String)) :
    (∃ given : Setting → Option Loose,
      (∀ k : Setting, InForce (environmentEntries environment) entries k.name (given k)) ∧
      (∀ s, load files environment path = .ok s ↔
        ∀ k : Setting, k.read (given k) = some (k.of s)) ∧
      ((∃ e, load files environment path = .error e) ↔
        ∃ k : Setting, k.read (given k) = none)) ∧
    (∀ k : Setting, (environmentEntries environment).value? k.name =
      (environment.reverse.find? fun v => Text.lower v.1 == environmentStart ++ k.name).map
        fun v => Loose.ofText v.2) ∧
    (∀ files' path' entries' environment',
      fileEntries? files' (path'.getD defaultPath) = some entries' →
      known entries' = known entries →
      known (environmentEntries environment') = known (environmentEntries environment) →
      load files' environment' path' = load files environment path) := by
  refine ⟨⟨fun k => inForce (environmentLayer environment) (entries.map placed) k.name,
    fun k => inForce_placed k.plain _ _, fun s => ?_, ?_⟩,
    fun k => value?_environmentEntries k.plain environment, ?_⟩
  · rw [load_eq_ofLayers hfile, ofLayers_eq_ok_iff]
  · rw [load_eq_ofLayers hfile, exists_ofLayers_error_iff]
  · intro files' path' entries' environment' hfile' hentries henvironment
    rw [load_eq_ofLayers hfile', load_eq_ofLayers hfile, environmentLayer, environmentLayer,
      ← ofLayers_known, hentries, henvironment, ofLayers_known]

theorem load_reads_layers_past_malformed :
    let files := [("site.toml", "key_search_limit = 'many'\nother = 7\nbind = '0.0.0.0:80'")]
    let environment := [("DEMANDSEARCH__KEY_SEARCH_LIMIT", "250"), ("DEMANDSEARCH__OTHER", "x")]
    let loaded := { usual with keySearchLimit := 250, bind := "0.0.0.0:80" }
    ∃ entries, fileEntries? files "site" = some entries ∧ ∃ given : Setting → Option Loose,
      (∀ k : Setting, InForce (environmentEntries environment) entries k.name (given k)) ∧
      (∀ k : Setting, k.read (given k) = some (k.of loaded)) := by
  intro files environment loaded
  have hfile : fileEntries? files ((some "site").getD defaultPath) = some
      [("bind", .text "0.0.0.0:80"), ("other", .int 7), ("key_search_limit", .text "many")] := by
    decide +kernel
  have hload : load files environment (some "site") = .ok loaded := by
    decide +kernel
  obtain ⟨⟨given, hforce, hok, -⟩, -⟩ := load_reads_layers hfile environment
  exact ⟨_, hfile, given, hforce, (hok _).mp hload⟩

/-- A variable that names no setting, but leads into one, is not ignored. -/
theorem nested_variable_refused :
    let environment := [("DEMANDSEARCH__BIND__HOST", "x")]
    fileEntries? [] defaultPath = some [] ∧
      (∀ k : Setting, ∀ v ∈ environment, Text.lower v.1 ≠ environmentStart ++ k.name) ∧
      (∀ k : Setting, k.read none = some (k.of usual)) ∧
      load [] environment none = .error (.config "the value of bind does not convert") := by
  refine ⟨rfl, fun k => ?_, fun k => rfl, by decide +kernel⟩
  cases k <;> decide +kernel

end PlanningSearch.Settings
