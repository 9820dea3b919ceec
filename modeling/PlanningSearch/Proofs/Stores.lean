import Mathlib.Data.List.Forall2
import Mathlib.Data.List.Induction
import PlanningSearch.Proofs.Builder.Canonical

/-!
Stores hold exactly the accepted saves. A save is refused for a blank name, for a builder without
criteria, or by a store that fails, and then the store stays as it is. Any other save is filed
behind the entries there are, under the next number. So after any sequence of saves the entries are
those of the accepted saves in order, numbered from one.
-/

namespace PlanningSearch

/-- A store with numbered entries, and the saves that its authors send. -/
structure Filing (σ α ρ : Type) where
  entries : σ → List ρ
  failure : σ → Option String
  number : ρ → Option Int
  save : σ → α → Except SearchError (σ × ρ)
  valid : α → Bool
  Records : α → ρ → Prop

namespace Filing

variable {σ α ρ : Type} (F : Filing σ α ρ)

def next (s : σ) (a : α) : σ := ((F.save s a).toOption.map Prod.fst).getD s

def run (s : σ) (saves : List α) : σ := saves.foldl F.next s

def accepts (failure : Option String) (a : α) : Bool := F.valid a && failure.isNone

structure Files (s : σ) (a : α) (s' : σ) (x : ρ) : Prop where
  entries : F.entries s' = F.entries s ++ [x]
  failure : F.failure s' = F.failure s
  number : F.number x = some ((F.entries s).length + 1 : Int)
  records : F.Records a x

structure Lawful : Prop where
  refused : ∀ s a, F.accepts (F.failure s) a = false → ∃ e, F.save s a = .error e
  filed : ∀ s a, F.accepts (F.failure s) a = true →
    ∃ s' x, F.save s a = .ok (s', x) ∧ F.Files s a s' x

variable {F} {s : σ} {a : α}

theorem next_of_error {e : SearchError} (h : F.save s a = .error e) : F.next s a = s := by
  rw [next, h]
  rfl

theorem next_of_ok {r : σ × ρ} (h : F.save s a = .ok r) : F.next s a = r.1 := by
  rw [next, h]
  rfl

namespace Lawful

variable (h : F.Lawful)
include h

theorem error_iff : (∃ e, F.save s a = .error e) ↔ F.accepts (F.failure s) a = false := by
  refine ⟨fun ⟨e, he⟩ => ?_, h.refused s a⟩
  cases haccepts : F.accepts (F.failure s) a with
  | false => rfl
  | true =>
    obtain ⟨s', x, hok, -⟩ := h.filed s a haccepts
    rw [hok] at he
    cases he

theorem files_of_ok {r : σ × ρ} (hr : F.save s a = .ok r) : F.Files s a r.1 r.2 := by
  cases haccepts : F.accepts (F.failure s) a with
  | false =>
    obtain ⟨e, he⟩ := h.refused s a haccepts
    rw [he] at hr
    cases hr
  | true =>
    obtain ⟨s', x, hok, hfiles⟩ := h.filed s a haccepts
    rw [hok] at hr
    cases hr
    exact hfiles

end Lawful

def numbering (n : Nat) : List (Option Int) :=
  (List.range n).map fun i : Nat => some ((i : Int) + 1)

structure Holds (F : Filing σ α ρ) (failure : Option String) (saves : List α) (s : σ) : Prop where
  failing : F.failure s = failure
  records : List.Forall₂ F.Records (saves.filter (F.accepts failure)) (F.entries s)
  numbers : (F.entries s).map F.number = numbering (F.entries s).length

variable {failure : Option String} {saves : List α}

theorem Holds.of_refused (hs : F.Holds failure saves s) (ha : F.accepts failure a = false) :
    F.Holds failure (saves ++ [a]) s := by
  refine ⟨hs.failing, ?_, hs.numbers⟩
  rw [List.filter_append, List.filter_cons_of_neg (by simp [ha]), List.filter_nil, List.append_nil]
  exact hs.records

theorem Holds.of_files (hs : F.Holds failure saves s) (ha : F.accepts failure a = true) {s' : σ}
    {x : ρ} (hx : F.Files s a s' x) : F.Holds failure (saves ++ [a]) s' := by
  refine ⟨hx.failure.trans hs.failing, ?_, ?_⟩
  · rw [List.filter_append, List.filter_cons_of_pos ha, List.filter_nil, hx.entries]
    exact List.rel_append hs.records (.cons hx.records .nil)
  · rw [hx.entries, List.map_append, List.map_singleton, hs.numbers, hx.number, List.length_append,
      List.length_singleton, numbering, numbering, List.range_succ, List.map_append,
      List.map_singleton]

theorem Lawful.next_holds (h : F.Lawful) (hs : F.Holds failure saves s) (a : α) :
    F.Holds failure (saves ++ [a]) (F.next s a) := by
  have hfailing := hs.failing
  cases haccepts : F.accepts failure a with
  | false =>
    obtain ⟨e, he⟩ := h.refused s a (hfailing ▸ haccepts)
    rw [next_of_error he]
    exact hs.of_refused haccepts
  | true =>
    obtain ⟨s', x, hok, hfiles⟩ := h.filed s a (hfailing ▸ haccepts)
    rw [next_of_ok hok]
    exact hs.of_files haccepts hfiles

theorem Lawful.run_holds (h : F.Lawful) (hnew : F.entries s = []) (saves : List α) :
    F.Holds (F.failure s) saves (F.run s saves) := by
  induction saves using List.reverseRecOn with
  | nil => exact ⟨rfl, by simp [run, hnew], by simp [run, hnew, numbering]⟩
  | append_singleton saves a ih =>
    rw [run, List.foldl_append]
    exact h.next_holds ih a

end Filing

structure Builder.Submission where
  actions : List Builder.Action
  now : Instant
  name : String

def Builder.Submission.builder (a : Builder.Submission) : Builder := Builder.new.run a.actions

theorem Builder.exists_error_save {b : Builder} {store : SavedSearches} {now : Instant}
    {name : String}
    (h : Text.blank name = true ∨ b.query = none ∨ store.failure ≠ none) :
    ∃ e, b.save store now name = .error e := by
  simp only [save, Text.isEmpty_trim]
  split
  · exact ⟨_, rfl⟩
  · rename_i hname
    cases hquery : b.query with
    | none => exact ⟨_, rfl⟩
    | some query =>
      have hfailure : store.failure ≠ none := by simpa [hname, hquery] using h
      obtain ⟨message, hmessage⟩ := Option.ne_none_iff_exists'.mp hfailure
      exact ⟨.collaborator message, by simp [SavedSearches.create, failing, hmessage]⟩

namespace SavedSearches

def filing : Filing SavedSearches Builder.Submission SavedSearch where
  entries := saved
  failure := failure
  number := SavedSearch.id
  save s a := a.builder.save s a.now a.name
  valid a := !Text.blank a.name && !a.builder.criteria.isEmpty
  Records a x := x.name = Text.trim a.name ∧ Text.blank x.name = false ∧
    a.builder.query = some x.query ∧ x.createdAt = some a.now

theorem save_filing (s : SavedSearches) (a : Builder.Submission) :
    filing.save s a = a.builder.save s a.now a.name := by
  simp only [filing]

theorem accepts_filing_iff {failure : Option String} {a : Builder.Submission} :
    filing.accepts failure a = true ↔
      Text.blank a.name = false ∧ a.builder.criteria ≠ [] ∧ failure = none := by
  simp [Filing.accepts, filing, and_assoc]

theorem refuses_filing_iff {failure : Option String} {a : Builder.Submission} :
    filing.accepts failure a = false ↔
      Text.blank a.name = true ∨ a.builder.criteria = [] ∨ failure ≠ none := by
  rw [← Bool.not_eq_true, accepts_filing_iff, not_and_or, not_and_or, Bool.not_eq_false,
    Decidable.not_not]

theorem filing_lawful : filing.Lawful := by
  have hquery (a : Builder.Submission) : a.builder.query = none ↔ a.builder.criteria = [] :=
    (Builder.run_sound Builder.new_sound a.actions).query_eq_none_iff
  refine ⟨fun s a h => ?_, fun s a h => ?_⟩
  · simp only [save_filing]
    refine Builder.exists_error_save ?_
    rw [hquery]
    exact refuses_filing_iff.mp h
  · obtain ⟨hname, hcriteria, hfailure⟩ := accepts_filing_iff.mp h
    obtain ⟨query, hsome⟩ :=
      Option.ne_none_iff_exists'.mp fun hnone => hcriteria ((hquery a).mp hnone)
    have hsave : a.builder.save s a.now a.name = .ok (s.add a.now (Text.trim a.name) query) :=
      Builder.save_of_query hsome hname hfailure
    have hblank : Text.blank (Text.trim a.name) = false := (Text.blank_trim a.name).trans hname
    rw [save_filing]
    exact ⟨_, _, hsave, rfl, rfl, rfl, rfl, hblank, hsome, rfl⟩

end SavedSearches

namespace Profiles

structure Submission where
  config : Cleanse.Config
  now : Instant
  name : String

def filing : Filing Profiles Submission Cleanse.Profile where
  entries := profiles
  failure := failure
  number := Cleanse.Profile.id
  save s a := s.save a.now a.name a.config
  valid a := !Text.blank a.name
  Records a x := x.name = Text.trim a.name ∧ Text.blank x.name = false ∧ x.config = a.config ∧
    x.createdAt = some a.now

theorem save_filing (s : Profiles) (a : Submission) :
    filing.save s a = s.save a.now a.name a.config := by
  simp only [filing]

theorem accepts_filing_iff {failure : Option String} {a : Submission} :
    filing.accepts failure a = true ↔ Text.blank a.name = false ∧ failure = none := by
  simp [Filing.accepts, filing]

theorem refuses_filing_iff {failure : Option String} {a : Submission} :
    filing.accepts failure a = false ↔ Text.blank a.name = true ∨ failure ≠ none := by
  rw [← Bool.not_eq_true, accepts_filing_iff, not_and_or, Bool.not_eq_false]

def add (s : Profiles) (a : Submission) : Profiles × Cleanse.Profile :=
  let entry : Cleanse.Profile :=
    ⟨some (s.profiles.length + 1), Text.trim a.name, a.config, some a.now⟩
  ({ s with profiles := s.profiles ++ [entry] }, entry)

theorem create_eq (s : Profiles) (a : Submission) :
    s.create a.now (Text.trim a.name) a.config = failing s.failure (s.add a) := rfl

theorem save_of_name {s : Profiles} {a : Submission} (hname : Text.blank a.name = false)
    (hfailure : s.failure = none) : s.save a.now a.name a.config = .ok (s.add a) := by
  simp only [save, Text.isEmpty_trim, hname, create_eq, hfailure, failing]
  rfl

theorem exists_error_save {s : Profiles} {a : Submission}
    (h : Text.blank a.name = true ∨ s.failure ≠ none) :
    ∃ e, s.save a.now a.name a.config = .error e := by
  simp only [save, Text.isEmpty_trim]
  split
  · exact ⟨_, rfl⟩
  · rename_i hname
    have hfailure : s.failure ≠ none := by simpa [hname] using h
    obtain ⟨message, hmessage⟩ := Option.ne_none_iff_exists'.mp hfailure
    rw [create_eq, hmessage]
    exact ⟨_, rfl⟩

theorem filing_lawful : filing.Lawful := by
  refine ⟨fun s a h => ?_, fun s a h => ?_⟩
  · simp only [save_filing]
    exact exists_error_save (refuses_filing_iff.mp h)
  · obtain ⟨hname, hfailure⟩ := accepts_filing_iff.mp h
    have hsave : s.save a.now a.name a.config = .ok (s.add a) := save_of_name hname hfailure
    have hblank : Text.blank (Text.trim a.name) = false := (Text.blank_trim a.name).trans hname
    rw [save_filing]
    exact ⟨_, _, hsave, rfl, rfl, rfl, rfl, hblank, rfl, rfl⟩

end Profiles

/-- After any saves into a new store of searches, a further one fails exactly for a blank name, for
a builder without criteria, or if the store fails; then the store stays as it is, and otherwise the
entry answered is the one put behind the others. The entries are those of the saves that succeeded,
in order, each with a trimmed name that is not blank and the query of its builder, and numbered
from one. So it is with profiles, which are stored with the configuration given. -/
theorem stores_hold_accepted_saves (failure : Option String) :
    (∀ saves : List Builder.Submission,
      let s := SavedSearches.filing.run { failure := failure } saves
      (∀ a : Builder.Submission,
        ((∃ e, a.builder.save s a.now a.name = .error e) ↔
          Text.blank a.name = true ∨ a.builder.criteria = [] ∨ failure ≠ none) ∧
        (∀ e, a.builder.save s a.now a.name = .error e → SavedSearches.filing.next s a = s) ∧
        ∀ r, a.builder.save s a.now a.name = .ok r →
          SavedSearches.filing.next s a = r.1 ∧ r.1.saved = s.saved ++ [r.2]) ∧
      List.Forall₂ (fun a x => x.name = Text.trim a.name ∧ Text.blank x.name = false ∧
          a.builder.query = some x.query ∧ x.createdAt = some a.now)
        (saves.filter fun a =>
          (!Text.blank a.name && !a.builder.criteria.isEmpty) && failure.isNone) s.saved ∧
      s.saved.map SavedSearch.id = Filing.numbering s.saved.length) ∧
    ∀ saves : List Profiles.Submission,
      let s := Profiles.filing.run { failure := failure } saves
      (∀ a : Profiles.Submission,
        ((∃ e, s.save a.now a.name a.config = .error e) ↔
          Text.blank a.name = true ∨ failure ≠ none) ∧
        (∀ e, s.save a.now a.name a.config = .error e → Profiles.filing.next s a = s) ∧
        ∀ r, s.save a.now a.name a.config = .ok r →
          Profiles.filing.next s a = r.1 ∧ r.1.profiles = s.profiles ++ [r.2]) ∧
      List.Forall₂ (fun a x => x.name = Text.trim a.name ∧ Text.blank x.name = false ∧
          x.config = a.config ∧ x.createdAt = some a.now)
        (saves.filter fun a => !Text.blank a.name && failure.isNone) s.profiles ∧
      s.profiles.map Cleanse.Profile.id = Filing.numbering s.profiles.length := by
  refine ⟨fun saves => ?_, fun saves => ?_⟩
  · intro s
    obtain ⟨hfailing, hrecords, hnumbers⟩ :=
      SavedSearches.filing_lawful.run_holds (s := { failure := failure }) rfl saves
    refine ⟨fun a => ?_, hrecords, hnumbers⟩
    have herror := SavedSearches.filing_lawful.error_iff (s := s) (a := a)
    rw [hfailing, SavedSearches.refuses_filing_iff] at herror
    simp only [← SavedSearches.save_filing]
    refine ⟨herror, fun e he => Filing.next_of_error he, fun r hr => ?_⟩
    exact ⟨Filing.next_of_ok hr, (SavedSearches.filing_lawful.files_of_ok hr).entries⟩
  · intro s
    obtain ⟨hfailing, hrecords, hnumbers⟩ :=
      Profiles.filing_lawful.run_holds (s := { failure := failure }) rfl saves
    refine ⟨fun a => ?_, hrecords, hnumbers⟩
    have herror := Profiles.filing_lawful.error_iff (s := s) (a := a)
    rw [hfailing, Profiles.refuses_filing_iff] at herror
    simp only [← Profiles.save_filing]
    refine ⟨herror, fun e he => Filing.next_of_error he, fun r hr => ?_⟩
    exact ⟨Filing.next_of_ok hr, (Profiles.filing_lawful.files_of_ok hr).entries⟩

end PlanningSearch
