import Mathlib.Logic.Function.Basic
import PlanningSearch.Proofs.Screen.Turn
import PlanningSearch.Proofs.Ticket.LifeCycle

/-!
Several screens side by side, each with a desk of its own. A ticket has a number and knows whether
it was overtaken, but not which desk issued it. So a desk takes a foreign ticket for its own exactly
if its newest ticket is open and has the same number and the foreign ticket was not overtaken. It
refuses any other foreign ticket, and then the desk and its screen stay as they are.
-/

namespace PlanningSearch

namespace Ticket

inductive Errand (ι : Type) where
  | issue (desk : ι)
  | close (desk issuer : ι) (ticket : Nat)
  | cancel (desk : ι)
  deriving DecidableEq

theorem Desk.finish_eq (d : Desk) (k : Nat) (overtaken : Bool) :
    d.finish k overtaken = if overtaken then (d, false) else d.close k := by
  cases overtaken with
  | true => simp [finish]
  | false =>
    by_cases h : d.open? = some k
    · simp [finish, close_of_open? h, h]
    · simp [finish, close_of_ne h, h]

abbrev Desks (ι : Type) := ι → Desk

namespace Desks

variable {ι : Type}

def present (ds : Desks ι) (desk issuer : ι) (ticket : Nat) : Desk × Bool :=
  (ds desk).finish ticket ((ds issuer).isOvertaken ticket)

variable [DecidableEq ι]

def act (ds : Desks ι) : Errand ι → Desks ι
  | .issue i => Function.update ds i (ds i).issue.1
  | .close i j k => Function.update ds i (ds.present i j k).1
  | .cancel i => Function.update ds i (ds i).cancel.1

def run (errands : List (Errand ι)) : Desks ι := errands.foldl act fun _ => .new

def seen? (ds : Desks ι) (i : ι) : Errand ι → Option Call
  | .issue j => if j = i then some .issue else none
  | .close j issuer k =>
    if j = i ∧ (ds issuer).isOvertaken k = false then some (.close k) else none
  | .cancel j => if j = i then some .cancel else none

theorem act_eq_seen (ds : Desks ι) (i : ι) (e : Errand ι) :
    ds.act e i = ((ds.seen? i e).map (ds i).act).getD (ds i) := by
  cases e with
  | issue j =>
    by_cases hj : j = i
    · subst hj
      simp [act, seen?, Desk.act]
    · simp [act, seen?, hj, Function.update_of_ne (Ne.symm hj)]
  | cancel j =>
    by_cases hj : j = i
    · subst hj
      simp [act, seen?, Desk.act]
    · simp [act, seen?, hj, Function.update_of_ne (Ne.symm hj)]
  | close j issuer k =>
    by_cases hj : j = i
    · subst hj
      cases h : (ds issuer).isOvertaken k <;> simp [act, seen?, present, Desk.finish_eq, Desk.act, h]
    · simp [act, seen?, hj, Function.update_of_ne (Ne.symm hj)]

theorem count_seen (ds : Desks ι) (i : ι) (e : Errand ι) :
    (ds.seen? i e).toList.count .issue = [e].count (.issue i) := by
  cases e with
  | issue j => by_cases hj : j = i <;> simp [seen?, hj]
  | cancel j => by_cases hj : j = i <;> simp [seen?, hj]
  | close j issuer k =>
    cases h : (ds issuer).isOvertaken k <;> by_cases hj : j = i <;> simp [seen?, hj, h]

/-- Whatever tickets are presented at a desk, it only goes through calls of its own. -/
theorem exists_calls (errands : List (Errand ι)) (i : ι) :
    ∃ calls, run errands i = Desk.new.run calls ∧
      calls.count .issue = errands.count (.issue i) := by
  induction errands using List.reverseRecOn with
  | nil => exact ⟨[], rfl, rfl⟩
  | append_singleton errands e ih =>
    obtain ⟨calls, hcalls, hcount⟩ := ih
    refine ⟨calls ++ ((run errands).seen? i e).toList, ?_, ?_⟩
    · rw [run, List.foldl_append, Desk.run, List.foldl_append]
      refine ((run errands).act_eq_seen i e).trans ?_
      rw [hcalls]
      cases (run errands).seen? i e <;> rfl
    · rw [List.count_append, List.count_append, hcount, count_seen]

theorem open?_iff {errands : List (Errand ι)} {i : ι} {k : Nat} :
    (run errands i).open? = some k ↔
      k = errands.count (.issue i) ∧ (run errands i).isPending = true := by
  obtain ⟨calls, hcalls, hcount⟩ := exists_calls errands i
  rw [Desk.isPending_iff, Option.ne_none_iff_exists', hcalls, ← hcount]
  constructor
  · exact fun h => ⟨Desk.open?_run_eq h, k, h⟩
  · rintro ⟨rfl, j, hj⟩
    rw [hj, Desk.open?_run_eq hj]

end Desks

end Ticket

open Ticket

variable {t : Table}

section

variable [Text.Order]

namespace Screen

def applyFrom (s : Screen t) (overtaken : Bool) (o : Outcome t) : Screen t × Bool :=
  if (s.desk.finish o.ticket overtaken).2 then s.apply o else (s, false)

theorem applyFrom_own (s : Screen t) (o : Outcome t) :
    s.applyFrom (s.desk.isOvertaken o.ticket) o = s.apply o := by
  unfold applyFrom
  split
  · rfl
  · rename_i h
    have hne : s.desk.open? ≠ some o.ticket := fun hopen => h (Desk.close_eq_true_iff.mpr hopen)
    rw [apply_of_ne hne]

end Screen

/-- A desk refuses a ticket of another desk, and is left as it is, exactly if the ticket has another
number than the newest ticket of its own, or that one is no longer open, or the foreign one was
overtaken. Then the outcome of the foreign search is not shown and changes nothing on the screen. -/
theorem foreign_ticket_refused_iff {ι : Type} [DecidableEq ι] (errands : List (Errand ι))
    (own foreign : ι) (k : Nat) :
    let ds := Desks.run errands
    let differs := k ≠ errands.count (.issue own) ∨ (ds own).isPending = false ∨
      (ds foreign).isOvertaken k = true
    (ds.present own foreign k = (ds own, false) ↔ differs) ∧
    (differs → ∀ (s : Screen t) (o : Outcome t), s.desk = ds own → o.ticket = k →
      s.applyFrom ((ds foreign).isOvertaken k) o = (s, false)) := by
  intro ds differs
  have hrefused : ds.present own foreign k = (ds own, false) ↔ differs := by
    have hanswer : ds.present own foreign k =
        if (ds foreign).isOvertaken k then (ds own, false) else (ds own).close k :=
      Desk.finish_eq ..
    cases hovertaken : (ds foreign).isOvertaken k with
    | true =>
      rw [hovertaken] at hanswer
      exact iff_of_true hanswer (.inr (.inr hovertaken))
    | false =>
      rw [hovertaken, if_neg Bool.false_ne_true] at hanswer
      by_cases hopen : (ds own).open? = some k
      · obtain ⟨hnewest, hpending⟩ := Desks.open?_iff.mp hopen
        rw [hanswer, Desk.close_of_open? hopen]
        refine iff_of_false (fun h => nomatch congrArg Prod.snd h) ?_
        rintro (hne | hidle | htaken)
        · exact hne hnewest
        · exact nomatch hidle.symm.trans hpending
        · exact nomatch htaken.symm.trans hovertaken
      · rw [hanswer, Desk.close_of_ne hopen]
        refine iff_of_true rfl ?_
        rw [Desks.open?_iff, not_and, Bool.not_eq_true] at hopen
        exact (Decidable.em _).imp_right fun hsame => .inl (hopen (Decidable.not_not.mp hsame))
  refine ⟨hrefused, fun hdiffers s o hdesk hticket => ?_⟩
  have hfinish : s.desk.finish o.ticket ((ds foreign).isOvertaken k) = (ds own, false) := by
    rw [hdesk, hticket]
    exact hrefused.mpr hdiffers
  rw [Screen.applyFrom, hfinish]
  exact if_neg Bool.false_ne_true

end

/-- Two screens have started one search each. The outcome of the second is shown on the first, whose
own search is closed by it. -/
theorem foreign_ticket_accepted :
    let ds := Desks.run [Errand.issue true, .issue false]
    let backend : Backend := fun query _ _ => .ok ⟨query, 1, [Key.ofParts query "" ""]⟩
    let started (query : String) :=
      (Screen.new (.usual .forecastElement) (.keys id)).prepare query false
    let first := (started "productid:*1*").1
    let second := started "productid:*2*"
    let o := (second.2.run backend (second.1.desk.isOvertaken second.2.ticket)).1
    let r := first.applyFrom (second.1.desk.isOvertaken o.ticket) o
    (ds true).isPending = true ∧ ds.present true false 1 = (⟨[.finished]⟩, true) ∧
    first.desk = ds true ∧ second.1.desk = ds false ∧
    r.2 = true ∧ r.1.isPending = false ∧
    r.1.view.shown = [Key.ofParts "productid:*2*" "" ""] := by
  decide

end PlanningSearch
