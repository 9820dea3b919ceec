/-!
Tickets for searches in flight. A desk issues tickets with increasing numbers; a new ticket
overtakes the one that is still open. Only the open ticket can be finished, and each at most once.
-/

namespace PlanningSearch.Ticket

inductive Fate where
  | pending
  | finished
  | overtaken
  deriving DecidableEq, Repr

def Fate.overtake : Fate → Fate
  | pending => overtaken
  | f => f

/-- The fates of the tickets issued, oldest first. Ticket numbers count from one. -/
structure Desk where
  fates : List Fate
  deriving DecidableEq, Repr

namespace Desk

def new : Desk := ⟨[]⟩

def open? (d : Desk) : Option Nat := (d.fates.findIdx? (· == .pending)).map (· + 1)

def isPending (d : Desk) : Bool := d.fates.any (· == .pending)

def overtakeAll (d : Desk) : Desk := ⟨d.fates.map Fate.overtake⟩

def issue (d : Desk) : Desk × Nat :=
  (⟨d.overtakeAll.fates ++ [.pending]⟩, d.fates.length + 1)

def isOvertaken (d : Desk) (ticket : Nat) : Bool :=
  d.fates[ticket - 1]? == some .overtaken

/-- Finishes a ticket, which the desk that issued it may count as overtaken. Tickets are told apart
by their numbers. -/
def finish (d : Desk) (ticket : Nat) (isOvertaken : Bool) : Desk × Bool :=
  if d.open? = some ticket ∧ isOvertaken = false then
    (⟨d.fates.set (ticket - 1) .finished⟩, true)
  else (d, false)

def close (d : Desk) (ticket : Nat) : Desk × Bool := d.finish ticket (d.isOvertaken ticket)

def cancel (d : Desk) : Desk × Bool := (d.overtakeAll, d.isPending)

end Desk

/-- Cancellation tokens: each handle refers to a flag, and copies of a handle share it. -/
structure CancelTokens where
  flags : List Bool
  handles : List Nat
  deriving DecidableEq, Repr

namespace CancelTokens

def none : CancelTokens := ⟨[], []⟩

def issue (c : CancelTokens) : CancelTokens := ⟨c.flags ++ [false], c.handles ++ [c.flags.length]⟩

def copy (c : CancelTokens) (i : Nat) : CancelTokens :=
  match c.handles[i]? with
  | some h => { c with handles := c.handles ++ [h] }
  | Option.none => c

def cancel (c : CancelTokens) (i : Nat) : CancelTokens :=
  match c.handles[i]? with
  | some h => { c with flags := c.flags.set h true }
  | Option.none => c

def states (c : CancelTokens) : List Bool := c.handles.map fun h => c.flags.getD h false

end CancelTokens

end PlanningSearch.Ticket
