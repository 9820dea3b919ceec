import PlanningSearch.Proofs.Query.NormalForm
import PlanningSearch.Proofs.Screen.InFlight

/-!
The search started last wins. After it is prepared it waits, then it has been run, then it has been
applied; meanwhile older searches may be run and applied in any order, and none of them touches the
screen, since the ticket of the newest one is the only open ticket. A blank search leaves no ticket
open, and nothing is applied until the next search is prepared.
-/

namespace PlanningSearch

open Ticket

variable {t : Table}

namespace Event

inductive Delivers : Event t → Prop where
  | run (slot : String) : Delivers (.run slot)
  | apply (slot : String) : Delivers (.apply slot)

inductive OfSearch : Event t → Prop where
  | prepare (slot query : String) (flag : Bool) : OfSearch (.prepare slot query flag)
  | delivers {e : Event t} (h : e.Delivers) : OfSearch e
  | blankCriteria {cs : List Criterion} (h : ∀ c ∈ cs, c.blank = true) : OfSearch (.criteria cs)
  | blankTyped (d : Domain) (uiField : String) {term : String} (h : Text.blank term = true) :
      OfSearch (.typed d uiField term)

end Event

namespace Session

variable (backend : Backend) {s : Session t} {slot : String}

section

variable [Text.Order]

theorem run_append (s : Session t) (before after : List (Event t)) :
    s.run backend (before ++ after) = (s.run backend before).run backend after :=
  List.foldl_append

theorem screen_step_run (s : Session t) (slot : String) :
    (s.step backend (.run slot)).1.screen = s.screen := by
  cases htake : takeSlot slot s.prepared with
  | none => rw [step_run_none backend htake]
  | some taken => rw [step_run backend htake]

theorem step_apply_dropped
    (h : ∀ o rest, takeSlot slot s.outcomes = some (o, rest) →
      s.screen.desk.open? ≠ some o.ticket) :
    (s.step backend (.apply slot)).1 =
      { s with outcomes := s.outcomes.filter fun e => e.1 != slot } := by
  cases htake : takeSlot slot s.outcomes with
  | none => rw [step_apply_none backend htake, filter_of_takeSlot_none htake]
  | some taken =>
    rw [step_apply backend htake, Screen.apply_of_ne (h _ _ htake), (takeSlot_eq_some htake).2]

theorem screen_run_of_idle (h : s.screen.desk.open? = none) {tail : List (Event t)}
    (htail : ∀ e ∈ tail, e.Delivers) : (s.run backend tail).screen = s.screen := by
  induction tail generalizing s with
  | nil => rfl
  | cons e tail ih =>
    have hscreen : (s.step backend e).1.screen = s.screen := by
      cases htail e List.mem_cons_self with
      | run slot => exact screen_step_run backend s slot
      | apply slot =>
        rw [step_apply_dropped backend fun o rest _ => h ▸ nofun]
    exact (ih (hscreen ▸ h) fun e he => htail e (List.mem_cons_of_mem _ he)).trans hscreen

theorem screen_step_blank {e : Event t} (h : e.OfSearch) :
    e.Delivers ∨ (∃ slot query flag, e = .prepare slot query flag) ∨
      ∀ s : Session t, (s.step backend e).1.screen = s.screen.showEmpty := by
  cases h with
  | prepare slot query flag => exact .inr (.inl ⟨slot, query, flag, rfl⟩)
  | delivers h => exact .inl h
  | blankCriteria h =>
    refine .inr (.inr fun s => ?_)
    simp only [step, Screen.runCriteria, Query.compileChecked_blank s.screen.source.domain? h]
    rfl
  | blankTyped d uiField h =>
    refine .inr (.inr fun s => ?_)
    simp only [step, Screen.searchTyped, if_pos h]
    rfl

structure Waiting (s : Session t) (slot : String) (p : Pending t) : Prop where
  held : ∃ rest, takeSlot slot s.prepared = some (p, rest)
  isOpen : s.screen.desk.open? = some p.ticket
  prepared : ∀ e ∈ s.prepared, e.2.ticket = p.ticket → e.1 = slot
  outcomes : ∀ e ∈ s.outcomes, e.2.ticket ≠ p.ticket

structure Ran (s : Session t) (slot : String) (o : Outcome t) : Prop where
  held : ∃ rest, takeSlot slot s.outcomes = some (o, rest)
  isOpen : s.screen.desk.open? = some o.ticket
  prepared : ∀ e ∈ s.prepared, e.1 ≠ slot ∧ e.2.ticket ≠ o.ticket
  outcomes : ∀ e ∈ s.outcomes, e.2.ticket = o.ticket → e.1 = slot

theorem waiting_of_prepare (h : s.Sound) (slot query : String) (flag : Bool) :
    (s.step backend (.prepare slot query flag)).1.Waiting slot (s.screen.prepare query flag).2 := by
  refine ⟨⟨_, takeSlot_putSlot_self⟩, s.screen.desk.open?_issue, ?_, ?_⟩
  -- the new ticket is larger than every ticket in flight
  · intro e he hticket
    rcases mem_putSlot he with rfl | ⟨hmem, _⟩
    · rfl
    · have hle := h.prepared e hmem
      rw [hticket] at hle
      exact absurd hle (Nat.not_succ_le_self _)
  · intro e he hticket
    have hle := h.outcomes e he
    rw [hticket] at hle
    exact absurd hle (Nat.not_succ_le_self _)

theorem Waiting.deliver {p : Pending t} (h : s.Waiting slot p) {e : Event t} (he : e.Delivers)
    (hne : e ≠ .run slot) :
    (s.step backend e).1.Waiting slot p ∧ (s.step backend e).1.screen = s.screen := by
  obtain ⟨rest, hheld⟩ := h.held
  cases he with
  | run other =>
    refine ⟨?_, screen_step_run backend s other⟩
    have hother : slot ≠ other := fun heq => hne (heq ▸ rfl)
    cases htake : takeSlot other s.prepared with
    | none =>
      rw [step_run_none backend htake]
      exact h
    | some taken =>
      obtain ⟨q, qs⟩ := taken
      obtain ⟨hmem, rfl⟩ := takeSlot_eq_some htake
      rw [step_run backend htake]
      refine ⟨takeSlot_filter_of_ne hother hheld, h.isOpen, ?_, ?_⟩
      · exact fun e he => h.prepared e (mem_of_mem_rest htake he).1
      · intro e he hticket
        rcases mem_putSlot he with rfl | ⟨hmem', _⟩
        · exact hother (h.prepared _ hmem hticket).symm
        · exact h.outcomes e hmem' hticket
  | apply other =>
    have hne (o : Outcome t) (qs : List (String × Outcome t))
        (htake : takeSlot other s.outcomes = some (o, qs)) :
        s.screen.desk.open? ≠ some o.ticket := by
      intro hopen
      have hticket := Option.some.inj (h.isOpen.symm.trans hopen)
      exact h.outcomes _ (takeSlot_eq_some htake).1 hticket.symm
    rw [step_apply_dropped backend hne]
    exact ⟨⟨h.held, h.isOpen, h.prepared, fun e he => h.outcomes e (List.mem_filter.mp he).1⟩, rfl⟩

theorem Waiting.run {p : Pending t} (h : s.Waiting slot p) :
    (s.step backend (.run slot)).1.Ran slot (p.run backend false).1 ∧
      (s.step backend (.run slot)).1.screen = s.screen := by
  refine ⟨?_, screen_step_run backend s slot⟩
  obtain ⟨rest, hheld⟩ := h.held
  rw [step_run backend hheld, Desk.isOvertaken_of_open? h.isOpen]
  refine ⟨⟨_, takeSlot_putSlot_self⟩, h.isOpen, ?_, ?_⟩
  · intro e he
    obtain ⟨hmem, hne⟩ := mem_of_mem_rest hheld he
    exact ⟨hne, fun hticket => hne (h.prepared e hmem hticket)⟩
  · intro e he hticket
    rcases mem_putSlot he with rfl | ⟨hmem, _⟩
    · rfl
    · exact absurd hticket (h.outcomes e hmem)

theorem Ran.deliver {o : Outcome t} (h : s.Ran slot o) {e : Event t} (he : e.Delivers)
    (hne : e ≠ .apply slot) :
    (s.step backend e).1.Ran slot o ∧ (s.step backend e).1.screen = s.screen := by
  obtain ⟨rest, hheld⟩ := h.held
  cases he with
  | run other =>
    refine ⟨?_, screen_step_run backend s other⟩
    cases htake : takeSlot other s.prepared with
    | none =>
      rw [step_run_none backend htake]
      exact h
    | some taken =>
      obtain ⟨q, qs⟩ := taken
      obtain ⟨hslot, hticket⟩ := h.prepared _ (takeSlot_eq_some htake).1
      rw [step_run backend htake]
      -- nothing is prepared under this name any more, so the outcome is not replaced
      refine ⟨takeSlot_putSlot_of_ne hslot.symm hheld, h.isOpen, ?_, ?_⟩
      · exact fun e he => h.prepared e (mem_of_mem_rest htake he).1
      · intro e he heq
        rcases mem_putSlot he with rfl | ⟨hmem, _⟩
        · exact absurd heq hticket
        · exact h.outcomes e hmem heq
  | apply other =>
    have hother : slot ≠ other := fun heq => hne (heq ▸ rfl)
    have hne (o' : Outcome t) (qs : List (String × Outcome t))
        (htake : takeSlot other s.outcomes = some (o', qs)) :
        s.screen.desk.open? ≠ some o'.ticket := by
      intro hopen
      have hticket := Option.some.inj (h.isOpen.symm.trans hopen)
      exact hother (h.outcomes _ (takeSlot_eq_some htake).1 hticket.symm).symm
    rw [step_apply_dropped backend hne]
    refine ⟨⟨takeSlot_filter_of_ne hother hheld, h.isOpen, h.prepared, ?_⟩, rfl⟩
    exact fun e he => h.outcomes e (List.mem_filter.mp he).1

theorem Sound.accepts (h : s.Sound) {o : Outcome t} {rest : List (String × Outcome t)}
    (htake : takeSlot slot s.outcomes = some (o, rest))
    (hopen : s.screen.desk.open? = some o.ticket) : (s.screen.apply o).2 = true :=
  Screen.apply_of_open? hopen (h.ne_superseded htake hopen)

theorem Ran.apply {o : Outcome t} (h : s.Ran slot o) (hs : s.Sound) :
    (s.step backend (.apply slot)).2 = .flag true ∧
      (s.step backend (.apply slot)).1.screen = (s.screen.apply o).1 ∧
      (s.step backend (.apply slot)).1.screen.desk.open? = none := by
  obtain ⟨rest, hheld⟩ := h.held
  rw [step_apply backend hheld]
  refine ⟨congrArg _ (hs.accepts hheld h.isOpen), rfl, ?_⟩
  rw [Screen.desk_apply]
  exact Desk.open?_close hs.single h.isOpen

theorem Ran.run_tail {o : Outcome t} (h : s.Ran slot o) (hs : s.Sound) {tail : List (Event t)}
    (htail : ∀ e ∈ tail, e.Delivers) :
    (.apply slot ∉ tail ∧ (s.run backend tail).Ran slot o) ∨
      (.apply slot ∈ tail ∧ (s.run backend tail).screen = (s.screen.apply o).1 ∧
        (s.run backend tail).screen.desk.open? = none) := by
  induction tail generalizing s with
  | nil => exact .inl ⟨List.not_mem_nil, h⟩
  | cons e tail ih =>
    have hrest : ∀ e ∈ tail, e.Delivers := fun e he => htail e (List.mem_cons_of_mem _ he)
    by_cases he : e = .apply slot
    · subst he
      obtain ⟨_, hscreen, hidle⟩ := h.apply backend hs
      have hkeep := screen_run_of_idle backend hidle hrest
      refine .inr ⟨List.mem_cons_self, hkeep.trans hscreen, ?_⟩
      exact (congrArg (·.desk.open?) hkeep).trans hidle
    · obtain ⟨hran, hscreen⟩ := h.deliver backend (htail e List.mem_cons_self) he
      rcases ih hran (step_sound backend hs e) hrest with ⟨hmem, hr⟩ | ⟨hmem, hr, hidle⟩
      · exact .inl ⟨by simpa [Ne.symm he] using hmem, hr⟩
      · exact .inr ⟨List.mem_cons_of_mem _ hmem, hscreen ▸ hr, hidle⟩

theorem Waiting.run_tail {p : Pending t} (h : s.Waiting slot p) (hs : s.Sound)
    {tail : List (Event t)} (htail : ∀ e ∈ tail, e.Delivers) :
    (.run slot ∉ tail ∧ (s.run backend tail).Waiting slot p) ∨
      (.run slot ∈ tail ∧ ¬ List.Sublist [.run slot, .apply slot] tail ∧
        (s.run backend tail).Ran slot (p.run backend false).1) ∨
      (List.Sublist [.run slot, .apply slot] tail ∧
        (s.run backend tail).screen = (s.screen.apply (p.run backend false).1).1 ∧
        (s.run backend tail).screen.desk.open? = none) := by
  induction tail generalizing s with
  | nil => exact .inl ⟨List.not_mem_nil, h⟩
  | cons e tail ih =>
    have hrest : ∀ e ∈ tail, e.Delivers := fun e he => htail e (List.mem_cons_of_mem _ he)
    by_cases he : e = .run slot
    · subst he
      -- from here on the search has been run, and the rest of the run decides
      obtain ⟨hran, hscreen⟩ := h.run backend
      rcases hran.run_tail backend (step_sound backend hs _) hrest with
        ⟨hmem, hr⟩ | ⟨hmem, hr, hidle⟩
      · refine .inr (.inl ⟨List.mem_cons_self, ?_, hr⟩)
        rw [List.cons_sublist_cons, List.singleton_sublist]
        exact hmem
      · refine .inr (.inr ⟨?_, hscreen ▸ hr, hidle⟩)
        rw [List.cons_sublist_cons, List.singleton_sublist]
        exact hmem
    · obtain ⟨hwaiting, hscreen⟩ := h.deliver backend (htail e List.mem_cons_self) he
      have hsub : List.Sublist [.run slot, .apply slot] (e :: tail) ↔
          List.Sublist [.run slot, .apply slot] tail := by
        rw [List.sublist_cons_iff]
        simp [Ne.symm he]
      rw [hsub, List.mem_cons]
      rcases ih hwaiting (step_sound backend hs e) hrest with
        ⟨hmem, hr⟩ | ⟨hmem, hnot, hr⟩ | ⟨hmem, hr, hidle⟩
      · exact .inl ⟨by simp [Ne.symm he, hmem], hr⟩
      · exact .inr (.inl ⟨.inr hmem, hnot, hr⟩)
      · exact .inr (.inr ⟨hmem, hscreen ▸ hr, hidle⟩)

omit [Text.Order] in
theorem split_last_turn (events : List (Event t)) :
    (∀ e ∈ events, e.Delivers) ∨
      ∃ before e after, events = before ++ e :: after ∧ ¬ e.Delivers ∧ ∀ e ∈ after, e.Delivers := by
  induction events with
  | nil => exact .inl fun _ h => absurd h List.not_mem_nil
  | cons e events ih =>
    rcases ih with hall | ⟨before, e', after, rfl, he', hafter⟩
    · by_cases he : e.Delivers
      · exact .inl (List.forall_mem_cons.mpr ⟨he, hall⟩)
      · exact .inr ⟨[], e, events, rfl, he, hall⟩
    · exact .inr ⟨e :: before, e', after, rfl, he', hafter⟩

theorem idle_or_prepared (s : Session t) (hs : s.screen.desk.open? = none)
    {events : List (Event t)} (h : ∀ e ∈ events, e.OfSearch) :
    (s.run backend events).screen.desk.open? = none ∨
      ∃ before slot query flag after, events = before ++ .prepare slot query flag :: after ∧
        ∀ e ∈ after, e.Delivers := by
  rcases split_last_turn events with hall | ⟨before, e, after, rfl, he, hafter⟩
  · exact .inl (screen_run_of_idle backend hs hall ▸ hs)
  · have hofSearch := h e (List.mem_append_right _ List.mem_cons_self)
    rcases screen_step_blank backend hofSearch with hd | ⟨slot, query, flag, rfl⟩ | hblank
    · exact absurd hd he
    · exact .inr ⟨before, slot, query, flag, after, rfl, hafter⟩
    · have hidle : ((s.run backend before).step backend e).1.screen.desk.open? = none := by
        rw [hblank]
        exact Desk.open?_cancel _
      refine .inl ?_
      rw [run_append]
      exact (congrArg (·.desk.open?) (screen_run_of_idle backend hidle hafter)).trans hidle

/-- The outcome that waits under a name is that of the newest search: nothing was prepared and
nothing cancelled after it, and it has been run but not applied since. -/
def AwaitsNewest (slot : String) (events : List (Event t)) : Prop :=
  ∃ before query flag after, events = before ++ .prepare slot query flag :: after ∧
    (∀ e ∈ after, e.Delivers) ∧ .run slot ∈ after ∧
    ¬ List.Sublist [.run slot, .apply slot] after

theorem open?_of_accepted (h : (s.step backend (.apply slot)).2 = .flag true) :
    ∃ o rest, takeSlot slot s.outcomes = some (o, rest) ∧
      s.screen.desk.open? = some o.ticket := by
  cases htake : takeSlot slot s.outcomes with
  | none =>
    rw [step_apply_none backend htake] at h
    cases h
  | some taken =>
    obtain ⟨o, rest⟩ := taken
    refine ⟨o, rest, rfl, Decidable.byContradiction fun hne => ?_⟩
    rw [step_apply backend htake, Screen.apply_of_ne hne] at h
    cases h

theorem accepted_iff (settings : ScreenSettings) (source : Source t) {events : List (Event t)}
    (h : ∀ e ∈ events, e.OfSearch) (slot : String) :
    (((start settings source).run backend events).step backend (.apply slot)).2 = .flag true ↔
      AwaitsNewest slot events := by
  have hstart := start_sound settings source
  constructor
  · intro haccepted
    obtain ⟨o, rest, htake, hopen⟩ := open?_of_accepted backend haccepted
    have hmem := (takeSlot_eq_some htake).1
    rcases idle_or_prepared backend (start settings source) rfl h with
      hidle | ⟨before, name, query, flag, after, rfl, hd⟩
    · rw [hidle] at hopen
      cases hopen
    · have hbefore := sound_run backend hstart before
      have hwaiting := waiting_of_prepare backend hbefore name query flag
      rw [run_append] at hopen hmem
      rcases hwaiting.run_tail backend (step_sound backend hbefore _) hd with
        ⟨_, hr⟩ | ⟨hran, hnot, hr⟩ | ⟨_, _, hidle⟩
      · exact absurd (Option.some.inj (hopen.symm.trans hr.isOpen)) (hr.outcomes _ hmem)
      · have hticket := Option.some.inj (hopen.symm.trans hr.isOpen)
        obtain rfl : slot = name := hr.outcomes _ hmem hticket
        exact ⟨before, query, flag, after, rfl, hd, hran, hnot⟩
      · exact absurd (hopen.symm.trans hidle) nofun
  · rintro ⟨before, query, flag, after, rfl, hd, hran, hnot⟩
    have hbefore := sound_run backend hstart before
    have hwaiting := waiting_of_prepare backend hbefore slot query flag
    have hsound := step_sound backend hbefore (.prepare slot query flag)
    rw [run_append]
    rcases hwaiting.run_tail backend hsound hd with ⟨hmem, _⟩ | ⟨_, _, hr⟩ | ⟨hsub, _⟩
    · exact absurd hran hmem
    · exact (hr.apply backend (sound_run backend hsound after)).1
    · exact absurd hsub hnot

theorem screen_of_not_accepted (h : s.Sound)
    (hnot : (s.step backend (.apply slot)).2 ≠ .flag true) :
    (s.step backend (.apply slot)).1.screen = s.screen := by
  rw [step_apply_dropped backend fun o rest htake hopen => hnot ?_]
  rw [step_apply backend htake]
  exact congrArg _ (h.accepts htake hopen)

theorem screen_of_delivered (h : s.Sound) (slot query : String) (flag : Bool)
    {tail : List (Event t)} (htail : ∀ e ∈ tail, e.Delivers)
    (hsub : List.Sublist [.run slot, .apply slot] tail) :
    (s.run backend (.prepare slot query flag :: tail)).screen =
      ((s.screen.prepare query flag).1.apply
        ((s.screen.prepare query flag).2.run backend false).1).1 := by
  have hwaiting := waiting_of_prepare backend h slot query flag
  have hsound := step_sound backend h (.prepare slot query flag)
  rcases hwaiting.run_tail backend hsound htail with ⟨hmem, _⟩ | ⟨_, hnot, _⟩ | ⟨_, hr, _⟩
  · exact absurd (hsub.subset List.mem_cons_self) hmem
  · exact absurd hsub hnot
  · exact hr

/-- The outcome of a search is applied exactly if it is the newest search and was not cancelled,
and a dropped outcome changes nothing on the screen. So when the searches in flight are run and
applied in any order, the newest among them, they leave the screen that the newest alone leaves. -/
theorem newest_search_wins (settings : ScreenSettings) (source : Source t)
    {events : List (Event t)} (h : ∀ e ∈ events, e.OfSearch) :
    let s := (start settings source).run backend events
    (∀ slot, (s.step backend (.apply slot)).2 = .flag true ↔ AwaitsNewest slot events) ∧
    (∀ slot, (s.step backend (.apply slot)).2 ≠ .flag true →
      (s.step backend (.apply slot)).1.screen = s.screen) ∧
    ∀ slot query flag tail, (∀ e ∈ tail, e.Delivers) →
      List.Sublist [.run slot, .apply slot] tail →
      (s.run backend (.prepare slot query flag :: tail)).screen =
        (s.run backend [.prepare slot query flag, .run slot, .apply slot]).screen := by
  intro s
  have hs : s.Sound := sound_run backend (start_sound settings source) events
  refine ⟨accepted_iff backend settings source h, fun _ => screen_of_not_accepted backend hs, ?_⟩
  intro slot query flag tail htail hsub
  have halone : ∀ e ∈ ([.run slot, .apply slot] : List (Event t)), e.Delivers :=
    List.forall_mem_cons.mpr ⟨.run slot, List.forall_mem_singleton.mpr (.apply slot)⟩
  rw [screen_of_delivered backend hs slot query flag htail hsub,
    screen_of_delivered backend hs slot query flag halone (.refl _)]

end

theorem newest_of_two_wins :
    let backend : Backend := fun query _ _ => .ok ⟨query, 0, []⟩
    let events : List (Event .key) := [.prepare "old" "productid:*1*" false,
      .prepare "new" "productid:*2*" true, .run "new", .run "old"]
    let s := (start (.usual .forecastElement) (.keys id)).run backend events
    (∀ e ∈ events, e.OfSearch) ∧
    (s.step backend (.apply "new")).2 = .flag true ∧
    (s.step backend (.apply "old")).2 = .flag false ∧
    (s.step backend (.apply "old")).1.screen = s.screen ∧
    (s.run backend [.prepare "next" "productid:*3*" true, .apply "old", .run "next", .apply "new",
        .apply "next"]).screen =
      (s.run backend [.prepare "next" "productid:*3*" true, .run "next", .apply "next"]).screen := by
  intro backend events s
  have hevents : ∀ e ∈ events, e.OfSearch := by
    simp [events, Event.OfSearch.prepare, Event.OfSearch.delivers, Event.Delivers.run]
  obtain ⟨accepted, dropped, alone⟩ :=
    newest_search_wins backend (.usual .forecastElement) (.keys id) hevents
  have hold : (s.step backend (.apply "old")).2 = .flag false := by decide
  refine ⟨hevents, (accepted "new").mpr ?_, hold, dropped "old" ?_, alone _ _ _ _ ?_ ?_⟩
  · refine ⟨[.prepare "old" "productid:*1*" false], "productid:*2*", true,
      [.run "new", .run "old"], rfl, ?_, List.mem_cons_self, ?_⟩
    · simp [Event.Delivers.run]
    · simp
  · rw [hold]
    decide
  · simp [Event.Delivers.run, Event.Delivers.apply]
  · simp

end Session

end PlanningSearch
