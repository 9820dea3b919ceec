import PlanningSearch.Proofs.Screen.Turn

/-!
Searches in flight. Whatever happens on a screen, its desk only moves on to later states; every
search that waits to be run or applied holds a ticket which the desk has issued, and one that gave
up halfway holds a ticket which was overtaken.
-/

namespace PlanningSearch

open Ticket

variable {t : Table}

namespace Screen

variable [Text.Order] (backend : Backend) (s : Screen t)

theorem later_runQuery (query : String) (flag : Bool) :
    s.desk.Later (s.runQuery backend query flag).screen.desk := by
  rw [runQuery, desk_apply]
  exact .close _ (.issue (.refl _))

end Screen

variable [Text.Order] in
theorem Turn.later (backend : Backend) (s : Screen t) (turn : Turn) :
    s.desk.Later (turn.take backend s).screen.desk := by
  cases turn with
  | refuse e => exact .refl _
  | empty => exact .cancel (.refl _)
  | search query flag => exact s.later_runQuery backend query flag
  | stay => exact .refl _

namespace Session

section Slots

variable {α : Type} {slot : String} {a : α} {entries rest : List (String × α)}

theorem takeSlot_eq_some (h : takeSlot slot entries = some (a, rest)) :
    (slot, a) ∈ entries ∧ rest = entries.filter fun e => e.1 != slot := by
  obtain ⟨⟨name, b⟩, hfind, heq⟩ := Option.map_eq_some_iff.mp h
  obtain ⟨rfl, rfl⟩ := Prod.mk.inj heq
  have hname := List.find?_some hfind
  rw [beq_iff_eq] at hname
  exact ⟨hname ▸ List.mem_of_find?_eq_some hfind, rfl⟩

theorem filter_of_takeSlot_none (h : takeSlot slot entries = none) :
    (entries.filter fun e => e.1 != slot) = entries := by
  have hfind := List.find?_eq_none.mp (Option.map_eq_none_iff.mp h)
  exact List.filter_eq_self.mpr fun e he => by simpa using hfind e he

theorem mem_of_mem_rest (h : takeSlot slot entries = some (a, rest)) {e : String × α}
    (he : e ∈ rest) : e ∈ entries ∧ e.1 ≠ slot := by
  rw [(takeSlot_eq_some h).2, List.mem_filter] at he
  exact ⟨he.1, ne_of_beq_false (by simpa using he.2)⟩

theorem mem_putSlot {e : String × α} (h : e ∈ putSlot slot a entries) :
    e = (slot, a) ∨ (e ∈ entries ∧ e.1 ≠ slot) := by
  rcases List.mem_cons.mp h with rfl | hmem
  · exact .inl rfl
  · obtain ⟨hmem, hne⟩ := List.mem_filter.mp hmem
    exact .inr ⟨hmem, by simpa using hne⟩

theorem takeSlot_putSlot_self :
    takeSlot slot (putSlot slot a entries) = some (a, entries.filter fun e => e.1 != slot) := by
  simp [takeSlot, putSlot]

theorem takeSlot_filter_of_ne {other : String} (hne : slot ≠ other)
    (h : takeSlot slot entries = some (a, rest)) :
    ∃ rest', takeSlot slot (entries.filter fun e => e.1 != other) = some (a, rest') := by
  obtain ⟨e, hfind, heq⟩ := Option.map_eq_some_iff.mp h
  have hsame : (fun e : String × α => decide ((e.1 != other) = true ∧ (e.1 == slot) = true)) =
      fun e => e.1 == slot := by
    funext e
    rw [Bool.eq_iff_iff]
    simp only [decide_eq_true_eq, bne_iff_ne, beq_iff_eq, and_iff_right_iff_imp]
    rintro rfl
    exact hne
  refine ⟨_, Option.map_eq_some_iff.mpr ⟨e, ?_, Prod.ext (Prod.mk.inj heq).1 rfl⟩⟩
  rw [List.find?_filter, hsame, hfind]

theorem takeSlot_putSlot_of_ne {other : String} {b : α} (hne : slot ≠ other)
    (h : takeSlot slot entries = some (a, rest)) :
    ∃ rest', takeSlot slot (putSlot other b entries) = some (a, rest') := by
  obtain ⟨rest', htake⟩ := takeSlot_filter_of_ne hne h
  obtain ⟨e, hfind, heq⟩ := Option.map_eq_some_iff.mp htake
  refine ⟨_, Option.map_eq_some_iff.mpr ⟨e, ?_, Prod.ext (Prod.mk.inj heq).1 rfl⟩⟩
  rw [putSlot, List.find?_cons_of_neg (by simpa using hne.symm), hfind]

end Slots

section Steps

variable [Text.Order] (backend : Backend) {s : Session t} {slot : String}

theorem step_run_none (h : takeSlot slot s.prepared = none) :
    s.step backend (.run slot) = (s, .noSlot) := by
  simp only [step, h]

theorem step_run {p : Pending t} {rest : List (String × Pending t)}
    (h : takeSlot slot s.prepared = some (p, rest)) :
    s.step backend (.run slot) =
      let r := p.run backend (s.screen.desk.isOvertaken p.ticket)
      ({ s with
          prepared := rest
          outcomes := putSlot slot r.1 s.outcomes
          asked := s.asked ++ r.2 }, .ran p.query r.1.isOk) := by
  simp only [step, h]

theorem step_apply_none (h : takeSlot slot s.outcomes = none) :
    s.step backend (.apply slot) = (s, .noSlot) := by
  simp only [step, h]

theorem step_apply {o : Outcome t} {rest : List (String × Outcome t)}
    (h : takeSlot slot s.outcomes = some (o, rest)) :
    s.step backend (.apply slot) =
      ({ s with screen := (s.screen.apply o).1, outcomes := rest },
        .flag (s.screen.apply o).2) := by
  simp only [step, h]

end Steps

structure Sound (s : Session t) : Prop where
  single : s.screen.desk.Single
  prepared : ∀ e ∈ s.prepared, e.2.ticket ≤ s.screen.desk.fates.length
  outcomes : ∀ e ∈ s.outcomes, e.2.ticket ≤ s.screen.desk.fates.length
  superseded : ∀ e ∈ s.outcomes, e.2.result = .ok .superseded →
    s.screen.desk.isOvertaken e.2.ticket = true

theorem start_sound (settings : ScreenSettings) (source : Source t) :
    (start settings source).Sound where
  single := Desk.single_new
  prepared _ h := absurd h List.not_mem_nil
  outcomes _ h := absurd h List.not_mem_nil
  superseded _ h := absurd h List.not_mem_nil

theorem Sound.ne_superseded {s : Session t} (h : s.Sound) {slot : String} {o : Outcome t}
    {rest : List (String × Outcome t)} (htake : takeSlot slot s.outcomes = some (o, rest))
    (hopen : s.screen.desk.open? = some o.ticket) : o.result ≠ .ok .superseded := by
  intro hr
  have hovertaken := h.superseded _ (takeSlot_eq_some htake).1 hr
  rw [Desk.isOvertaken_of_open? hopen] at hovertaken
  cases hovertaken

/-- An event that moves the desk on and puts no new search in flight. -/
theorem Sound.of_later {s s' : Session t} (h : s.Sound)
    (hdesk : s.screen.desk.Later s'.screen.desk) (hprepared : s'.prepared = s.prepared)
    (houtcomes : ∀ e ∈ s'.outcomes, e ∈ s.outcomes) : s'.Sound where
  single := hdesk.single h.single
  prepared e he := Nat.le_trans (h.prepared e (hprepared ▸ he)) hdesk.length_le
  outcomes e he := Nat.le_trans (h.outcomes e (houtcomes e he)) hdesk.length_le
  superseded e he hr := hdesk.isOvertaken (h.superseded e (houtcomes e he) hr)

variable [Text.Order] (backend : Backend)

theorem prepare_sound {s : Session t} (h : s.Sound) (slot query : String) (flag : Bool) :
    (s.step backend (.prepare slot query flag)).1.Sound := by
  have hlater : s.screen.desk.Later s.screen.desk.issue.1 := .issue (.refl _)
  refine ⟨Desk.single_issue _, ?_, ?_, ?_⟩
  · intro e he
    rcases mem_putSlot he with rfl | ⟨hmem, _⟩
    · exact Nat.le_of_eq s.screen.desk.length_issue.symm
    · exact Nat.le_trans (h.prepared e hmem) hlater.length_le
  · exact fun e he => Nat.le_trans (h.outcomes e he) hlater.length_le
  · exact fun e he hr => hlater.isOvertaken (h.superseded e he hr)

theorem run_sound {s : Session t} (h : s.Sound) (slot : String) :
    (s.step backend (.run slot)).1.Sound := by
  cases htake : takeSlot slot s.prepared with
  | none =>
    rw [step_run_none backend htake]
    exact h
  | some taken =>
    obtain ⟨p, rest⟩ := taken
    have hp := h.prepared _ (takeSlot_eq_some htake).1
    rw [step_run backend htake]
    refine ⟨h.single, fun e he => h.prepared e (mem_of_mem_rest htake he).1, ?_, ?_⟩
    · intro e he
      rcases mem_putSlot he with rfl | ⟨hmem, _⟩
      · exact hp
      · exact h.outcomes e hmem
    · intro e he hr
      rcases mem_putSlot he with rfl | ⟨hmem, _⟩
      · exact Pending.resolve_superseded hr
      · exact h.superseded e hmem hr

theorem apply_sound {s : Session t} (h : s.Sound) (slot : String) :
    (s.step backend (.apply slot)).1.Sound := by
  cases htake : takeSlot slot s.outcomes with
  | none =>
    rw [step_apply_none backend htake]
    exact h
  | some taken =>
    rw [step_apply backend htake]
    refine h.of_later ?_ rfl fun e he => (mem_of_mem_rest htake he).1
    rw [Screen.desk_apply]
    exact .close _ (.refl _)

theorem turn_sound {s : Session t} (h : s.Sound) {e : Event t} {turn : Turn}
    (hturn : e.turn? s.screen = some turn) : (s.step backend e).1.Sound := by
  have hlater := turn.later backend (e.entered s.screen)
  rw [e.entered_desk] at hlater
  rw [step_of_turn backend hturn]
  exact h.of_later hlater rfl fun _ => id

theorem step_sound {s : Session t} (h : s.Sound) (e : Event t) : (s.step backend e).1.Sound := by
  cases e with
  | query | criteria | loadSaved | typed | fields | bucket => exact turn_sound backend h rfl
  | prepare slot q flag => exact prepare_sound backend h slot q flag
  | run slot => exact run_sound backend h slot
  | apply slot => exact apply_sound backend h slot
  | refreshSaved listing => cases listing <;> exact h.of_later (.refl _) rfl fun _ => id
  | loadMaster listing => cases listing <;> exact h.of_later (.refl _) rfl fun _ => id
  | select i => exact h.of_later (.refl _) rfl fun _ => id
  | filterContaining | filterExactly | clearFilters | sort | goTo =>
    exact h.of_later (.refl _) rfl fun _ => id

theorem sound_run {s : Session t} (h : s.Sound) (events : List (Event t)) :
    (s.run backend events).Sound := by
  induction events generalizing s with
  | nil => exact h
  | cons e events ih => exact ih (step_sound backend h e)

end Session

end PlanningSearch
