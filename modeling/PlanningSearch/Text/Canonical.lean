import Std.Data.HashMap
import PlanningSearch.Text.Canonical.Table
import PlanningSearch.Text.Words

/-!
Canonical decomposition. Characters are replaced by their decompositions, Hangul syllables by
their letters, and runs of combining marks are brought into the order of their classes.
-/

namespace PlanningSearch.Text.Canonical

def table : Std.HashMap Nat (List Nat) :=
  .ofList <| (Words.ofLines decompositions).filterMap fun w =>
    match w.splitOn ":" with
    | [c, d] => some (Words.hex c, Words.hexes "," d)
    | _ => none

def classTable : Std.HashMap Nat Nat :=
  .ofList <| (Words.ofLines combiningClasses).flatMap fun w =>
    match w.splitOn ":" with
    | [r, k] => (Words.range r).members.map fun n => (n, Words.hex k)
    | _ => []

def combiningClass (n : Nat) : Nat := if n < 0x300 then 0 else classTable.getD n 0

def syllable (n : Nat) : List Nat :=
  let i := n - 0xAC00
  let final := if i % 28 = 0 then [] else [0x11A7 + i % 28]
  (0x1100 + i / 588) :: (0x1161 + i % 588 / 28) :: final

def decompose (n : Nat) : List Nat :=
  if n < 0xC0 then [n]
  else if 0xAC00 ≤ n ∧ n ≤ 0xD7A3 then syllable n
  else table.getD n [n]

def byClass (marks : List Nat) : List Nat :=
  marks.mergeSort fun a b => combiningClass a ≤ combiningClass b

/-- Orders every run of marks by class; `run` holds the marks since the last base character. -/
def reorder (run : List Nat) : List Nat → List Nat
  | [] => byClass run
  | n :: ns =>
    if combiningClass n = 0 then byClass run ++ n :: reorder [] ns else reorder (run ++ [n]) ns

end PlanningSearch.Text.Canonical

namespace PlanningSearch.Text

def canonical (cs : List Char) : List Nat :=
  Canonical.reorder [] (cs.flatMap fun c => Canonical.decompose c.toNat)

end PlanningSearch.Text
