import PlanningSearch.Proofs.History
import PlanningSearch.Proofs.Ticket.Desk

/-!
The life of a ticket. It is open from its issue on; a later issue or a cancellation overtakes it,
unless it is closed before, and a ticket that is no longer open is never touched again. So what
became of a ticket can be read off the calls, and what a desk answers about it as well.
-/

namespace PlanningSearch.Ticket

inductive Call where
  | issue
  | close (ticket : Nat)
  | cancel
  deriving DecidableEq, Repr

def Call.settles? (k : Nat) : Call → Option Fate
  | .issue => some .overtaken
  | .close j => if j = k then some .finished else none
  | .cancel => some .overtaken

namespace Desk

def act (d : Desk) : Call → Desk
  | .issue => d.issue.1
  | .close k => (d.close k).1
  | .cancel => d.cancel.1

def run (d : Desk) (calls : List Call) : Desk := calls.foldl act d

def number? (d : Desk) : Call → Option Nat
  | .issue => some d.issue.2
  | .close _ => none
  | .cancel => none

def numbers (d : Desk) : List Call → List Nat
  | [] => []
  | c :: calls => (d.number? c).toList ++ (d.act c).numbers calls

def fate? (d : Desk) (k : Nat) : Option Fate := d.fates[k - 1]?

theorem isOvertaken_iff {d : Desk} {k : Nat} :
    d.isOvertaken k = true ↔ d.fate? k = some .overtaken :=
  beq_iff_eq

theorem close_eq_true_iff {d : Desk} {k : Nat} : (d.close k).2 = true ↔ d.open? = some k := by
  by_cases h : d.open? = some k
  · rw [close_of_open? h]
    exact iff_of_true rfl h
  · rw [close_of_ne h]
    exact iff_of_false Bool.false_ne_true h

theorem later_run (d : Desk) (calls : List Call) : d.Later (d.run calls) := by
  induction calls using List.reverseRecOn with
  | nil => exact .refl d
  | append_singleton calls c ih =>
    rw [run, List.foldl_append]
    cases c with
    | issue => exact .issue ih
    | close k => exact .close k ih
    | cancel => exact .cancel ih

theorem Single.act {d : Desk} (h : d.Single) (c : Call) : (d.act c).Single :=
  (d.later_run [c]).single h

theorem length_act (d : Desk) (c : Call) :
    (d.act c).fates.length = d.fates.length + if c = .issue then 1 else 0 := by
  cases c with
  | issue => exact d.length_issue
  | cancel => exact List.length_map _
  | close k =>
    change (d.close k).1.fates.length = _
    by_cases h : d.open? = some k
    · rw [close_of_open? h]
      exact List.length_set
    · rw [close_of_ne h]
      rfl

theorem numbers_eq (d : Desk) (calls : List Call) :
    d.numbers calls = List.range' (d.fates.length + 1) (calls.count .issue) := by
  induction calls generalizing d with
  | nil => rfl
  | cons c calls ih =>
    rw [numbers, ih, length_act]
    cases c with
    | issue => rw [List.count_cons_self, List.range'_succ]; rfl
    | close | cancel => simp [number?]

theorem mem_numbers {calls : List Call} {k : Nat} :
    k ∈ new.numbers calls ↔ 0 < k ∧ k ≤ calls.count .issue := by
  rw [numbers_eq, List.mem_range'_1]
  change 0 + 1 ≤ k ∧ k < 0 + 1 + calls.count .issue ↔ _
  omega

theorem length_run (calls : List Call) : (new.run calls).fates.length = calls.count .issue := by
  induction calls using List.reverseRecOn with
  | nil => rfl
  | append_singleton calls c ih =>
    rw [run, List.foldl_append, List.count_append, ← ih]
    refine (length_act _ c).trans ?_
    cases c <;> rfl

def Ends (d : Desk) : Call → Prop
  | .issue => True
  | .close k => (d.close k).2 = true
  | .cancel => True

theorem open?_act {d : Desk} (hs : d.Single) (c : Call) (k : Nat) :
    (d.act c).open? = some k ↔ d.number? c = some k ∨ d.open? = some k ∧ ¬ d.Ends c := by
  cases c with
  | issue =>
    change d.issue.1.open? = some k ↔ _
    rw [open?_issue]
    simp [number?, Ends]
  | cancel =>
    change d.cancel.1.open? = some k ↔ _
    rw [open?_cancel]
    simp [number?, Ends]
  | close j =>
    change (d.close j).1.open? = some k ↔ _
    by_cases h : d.open? = some j
    · rw [open?_close hs h]
      simp [number?, Ends, close_eq_true_iff, h]
    · rw [close_of_ne h]
      simp [number?, Ends, close_eq_true_iff, h]

theorem pos_of_open? {d : Desk} {k : Nat} (h : d.open? = some k) : 0 < k := by
  obtain ⟨i, -, rfl⟩ := Option.map_eq_some_iff.mp h
  exact Nat.succ_pos i

theorem fate?_close_of_ne {d : Desk} {j k : Nat} (hk : 0 < k) (hne : j ≠ k) :
    (d.close j).1.fate? k = d.fate? k := by
  by_cases hj : d.open? = some j
  · have hpos := pos_of_open? hj
    rw [close_of_open? hj]
    exact List.getElem?_set_ne (by omega)
  · rw [close_of_ne hj]

theorem open?_iff_pending {d : Desk} (hs : d.Single) {k : Nat} (hk : 0 < k) :
    d.open? = some k ↔ d.fate? k = some .pending := by
  refine ⟨fate_of_open?, fun h => ?_⟩
  obtain ⟨j, hj⟩ : ∃ j, d.open? = some j :=
    Option.ne_none_iff_exists'.mp fun hnone =>
      open?_eq_none_iff.mp hnone (List.mem_of_getElem? h)
  by_contra hne
  -- closing the open ticket would leave this one open
  refine open?_eq_none_iff.mp (open?_close hs hj) (List.mem_of_getElem? (i := k - 1) ?_)
  exact (fate?_close_of_ne hk fun heq => hne (heq ▸ hj)).trans h

theorem fate?_overtakeAll {d : Desk} {k : Nat} {f : Fate} (hf : f ≠ .pending) :
    d.overtakeAll.fate? k = some f ↔
      d.fate? k = some f ∨ d.fate? k = some .pending ∧ f = .overtaken := by
  have hmap : d.overtakeAll.fate? k = (d.fate? k).map Fate.overtake := List.getElem?_map
  rw [hmap]
  rcases d.fate? k with _ | g
  · simp
  · cases g <;> cases f <;> simp_all [Fate.overtake]

theorem fate?_issue {d : Desk} {k : Nat} {f : Fate} (hf : f ≠ .pending) :
    d.issue.1.fate? k = some f ↔ d.overtakeAll.fate? k = some f := by
  change (d.overtakeAll.fates ++ [.pending])[k - 1]? = some f ↔ d.overtakeAll.fates[k - 1]? = some f
  by_cases h : k - 1 < d.overtakeAll.fates.length
  · rw [List.getElem?_append_left h]
  · rw [List.getElem?_append_right (Nat.le_of_not_lt h), List.getElem?_eq_none (Nat.le_of_not_lt h)]
    refine iff_of_false (fun hnew => hf ?_) nofun
    exact List.mem_singleton.mp (List.mem_of_getElem? hnew)

theorem settled_act {d : Desk} (hs : d.Single) {k : Nat} (hk : 0 < k) {f : Fate}
    (hf : f ≠ .pending) (c : Call) :
    (d.act c).fate? k = some f ↔
      d.fate? k = some f ∨ d.open? = some k ∧ c.settles? k = some f := by
  rw [open?_iff_pending hs hk]
  cases c with
  | issue =>
    rw [Call.settles?, Option.some.injEq, eq_comm (a := Fate.overtaken)]
    exact (fate?_issue hf).trans (fate?_overtakeAll hf)
  | cancel =>
    rw [Call.settles?, Option.some.injEq, eq_comm (a := Fate.overtaken)]
    exact fate?_overtakeAll hf
  | close j =>
    change (d.close j).1.fate? k = some f ↔ _
    by_cases hjk : j = k
    · subst hjk
      by_cases hj : d.open? = some j
      · have hpending := (open?_iff_pending hs hk).mp hj
        have hlt := (List.getElem?_eq_some_iff.mp hpending).1
        rw [close_of_open? hj, hpending]
        change (d.fates.set (j - 1) .finished)[j - 1]? = some f ↔ _
        rw [List.getElem?_set_self hlt]
        simp [Call.settles?, hf.symm]
      · rw [close_of_ne hj, ← open?_iff_pending hs hk]
        simp [hj]
    · rw [fate?_close_of_ne hk hjk]
      simp [Call.settles?, hjk]

def Standing (calls : List Call) (k : Nat) : Prop :=
  ∃ before after, calls = before ++ .issue :: after ∧ k = (new.run before).issue.2 ∧
    ∀ mid c rest, after = mid ++ c :: rest → ¬ (new.run (before ++ .issue :: mid)).Ends c

/-- What became of a ticket, as the calls tell it. -/
def Became (calls : List Call) (k : Nat) : Fate → Prop
  | .pending => Standing calls k
  | .finished => ∃ before after, calls = before ++ .close k :: after ∧
      ((new.run before).close k).2 = true
  | .overtaken => ∃ before c after, calls = before ++ c :: after ∧ Standing before k ∧
      (c = .issue ∨ c = .cancel)

theorem open?_run_iff {calls : List Call} {k : Nat} :
    (new.run calls).open? = some k ↔ Standing calls k := by
  have hsince := foldl_iff_exists_since (P := fun d : Desk => d.open? = some k)
    (fun _ c hs => Single.act hs c) (fun _ c hs => open?_act hs c k) single_new nofun calls
  refine hsince.trans ⟨?_, ?_⟩
  · rintro ⟨before, c, after, hcalls, hnumber, hends⟩
    cases c with
    | issue => exact ⟨before, after, hcalls, (Option.some.inj hnumber).symm, hends⟩
    | close | cancel => cases hnumber
  · rintro ⟨before, after, hcalls, rfl, hends⟩
    exact ⟨before, .issue, after, hcalls, rfl, hends⟩

theorem open?_run_eq {calls : List Call} {k : Nat} (h : (new.run calls).open? = some k) :
    k = calls.count .issue := by
  obtain ⟨before, after, rfl, rfl, hends⟩ := open?_run_iff.mp h
  have hnone : after.count .issue = 0 := List.count_eq_zero.mpr fun hmem => by
    obtain ⟨mid, rest, rfl⟩ := List.append_of_mem hmem
    exact hends mid .issue rest rfl trivial
  rw [List.count_append, List.count_cons_self, hnone, ← length_run]
  rfl

theorem settled_run {k : Nat} (hk : 0 < k) {f : Fate} (hf : f ≠ .pending) (calls : List Call) :
    (new.run calls).fate? k = some f ↔ ∃ before c after, calls = before ++ c :: after ∧
      Standing before k ∧ c.settles? k = some f := by
  have hsplit := foldl_iff_exists_split (P := fun d : Desk => d.fate? k = some f)
    (fun _ c hs => Single.act hs c) (fun _ c hs => settled_act hs hk hf c) single_new nofun calls
  refine hsplit.trans ?_
  simp only [← open?_run_iff]
  rfl

theorem fate?_run_iff {k : Nat} (hk : 0 < k) (calls : List Call) (f : Fate) :
    (new.run calls).fate? k = some f ↔ Became calls k f := by
  have hsingle : (new.run calls).Single := (new.later_run calls).single single_new
  cases f with
  | pending => rw [← open?_iff_pending hsingle hk, open?_run_iff]; rfl
  | finished =>
    rw [settled_run hk (by decide)]
    constructor
    · rintro ⟨before, c, after, hcalls, hopen, hsettles⟩
      cases c with
      | close j =>
        obtain rfl : j = k := by simpa [Call.settles?] using hsettles
        exact ⟨before, after, hcalls, close_eq_true_iff.mpr (open?_run_iff.mpr hopen)⟩
      | issue | cancel => cases hsettles
    · rintro ⟨before, after, hcalls, hclose⟩
      exact ⟨before, .close k, after, hcalls, open?_run_iff.mp (close_eq_true_iff.mp hclose),
        if_pos rfl⟩
  | overtaken =>
    rw [settled_run hk (by decide)]
    refine exists_congr fun before => exists_congr fun c => exists_congr fun after => ?_
    cases c <;> simp [Call.settles?]

theorem existsUnique_became {calls : List Call} {k : Nat} (h : k ∈ new.numbers calls) :
    ∃! f, Became calls k f := by
  obtain ⟨hk, hle⟩ := mem_numbers.mp h
  have hlt : k - 1 < (new.run calls).fates.length := by
    rw [length_run]
    omega
  have hfate : (new.run calls).fate? k = some (new.run calls).fates[k - 1] :=
    List.getElem?_eq_getElem hlt
  refine ⟨_, (fate?_run_iff hk calls _).mp hfate, fun f hf => ?_⟩
  exact Option.some.inj (((fate?_run_iff hk calls f).mpr hf).symm.trans hfate)

/-- Tickets have increasing 64-bit numbers. A ticket is accepted exactly if it is the newest and
since its issue there was no cancellation and no ticket was accepted, so at most once; a search is
pending exactly if there is such a ticket, and there is never a second one. A ticket counts as
overtaken exactly if it was such a ticket when another one was issued or all were cancelled, and
does so from then on. Each ticket is open, finished or overtaken, and only one of these. -/
theorem life_cycle {calls : List Call} (hfew : calls.count .issue < UInt64.size) :
    let d := new.run calls
    (new.numbers calls).Pairwise (· < ·) ∧ (∀ k ∈ new.numbers calls, k < UInt64.size) ∧
    (∀ k, (d.close k).2 = true ↔ Standing calls k) ∧
    (∀ k, Became calls k .finished → (d.close k).2 = false) ∧
    (d.isPending = true ↔ ∃ k, Standing calls k) ∧
    (∀ j k, Standing calls j → Standing calls k → j = k) ∧
    ∀ k ∈ new.numbers calls,
      (d.isOvertaken k = true ↔ Became calls k .overtaken) ∧
      (d.isOvertaken k = true → ∀ later, (d.run later).isOvertaken k = true) ∧
      ∃! f, Became calls k f := by
  intro d
  refine ⟨?_, fun k hk => Nat.lt_of_le_of_lt (mem_numbers.mp hk).2 hfew, fun k => ?_,
    fun k hfinished => ?_, ?_, fun j k hj hk => ?_, fun k hk => ⟨?_, ?_, existsUnique_became hk⟩⟩
  · rw [numbers_eq]
    exact List.pairwise_lt_range'
  · rw [close_eq_true_iff, open?_run_iff]
  · obtain ⟨before, after, hcalls, hclose⟩ := hfinished
    have hpos := pos_of_open? (close_eq_true_iff.mp hclose)
    have hfate := (fate?_run_iff hpos calls .finished).mpr ⟨before, after, hcalls, hclose⟩
    rw [← Bool.not_eq_true, close_eq_true_iff]
    intro hopen
    have hpending := fate_of_open? hopen
    exact nomatch hpending.symm.trans hfate
  · rw [isPending_iff, Option.ne_none_iff_exists']
    simp only [d, open?_run_iff]
  · exact Option.some.inj ((open?_run_iff.mpr hj).symm.trans (open?_run_iff.mpr hk))
  · rw [isOvertaken_iff, fate?_run_iff (mem_numbers.mp hk).1]
  · exact fun hovertaken later => (d.later_run later).isOvertaken hovertaken

theorem life_cycle_of_four_tickets :
    let calls : List Call :=
      [.issue, .issue, .close 1, .close 2, .close 2, .issue, .cancel, .close 3, .issue]
    let d := new.run calls
    calls.count .issue < UInt64.size ∧ new.numbers calls = [1, 2, 3, 4] ∧
    Standing calls 4 ∧ Became calls 3 .overtaken ∧ Became calls 1 .overtaken ∧
    Became calls 2 .finished ∧ (d.close 2).2 = false ∧
    ∀ later, (d.run later).isOvertaken 1 = true := by
  intro calls d
  have hfew : calls.count .issue < UInt64.size := by decide
  have hnumbers : new.numbers calls = [1, 2, 3, 4] := by decide
  obtain ⟨-, -, hclose, honce, -, -, hissued⟩ := life_cycle hfew
  have hfirst := hissued 1 (by decide)
  have hthird := hissued 3 (by decide)
  have hfinished : Became calls 2 .finished :=
    ⟨[.issue, .issue, .close 1], [.close 2, .issue, .cancel, .close 3, .issue], rfl, by decide⟩
  exact ⟨hfew, hnumbers, (hclose 4).mp (by decide), hthird.1.mp (by decide),
    hfirst.1.mp (by decide), hfinished, honce 2 hfinished, hfirst.2.1 (by decide)⟩

end Desk

end PlanningSearch.Ticket
