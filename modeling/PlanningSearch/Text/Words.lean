/-!
Words of the character tables: hexadecimal numbers, ranges `first-last`, and ranges with a body
after a colon (one value per member, consecutive) or an equals sign (one value for all).
-/

namespace PlanningSearch.Text.Words

def hexDigit (c : Char) : Nat :=
  if c.toNat < 'a'.toNat then c.toNat - '0'.toNat else c.toNat - 'a'.toNat + 10

def hex (s : String) : Nat := s.toList.foldl (fun n c => n * 16 + hexDigit c) 0

def hexes (sep s : String) : List Nat := (s.splitOn sep).map hex

structure Range where
  first : Nat
  last : Nat

def range (s : String) : Range :=
  match s.splitOn "-" with
  | [a, b] => ⟨hex a, hex b⟩
  | _ => ⟨hex s, hex s⟩

def Range.members (r : Range) : List Nat := (List.range (r.last + 1 - r.first)).map (r.first + ·)

def Range.holds (r : Range) (n : Nat) : Bool := r.first ≤ n && n ≤ r.last

def ofLines (lines : List String) : List String := lines.flatMap fun l => l.splitOn " "

/-- Each member of a word's range with its value. -/
def assignments (word : String) : List (Nat × Nat) :=
  match word.splitOn ":", word.splitOn "=" with
  | [r, v], _ => (range r).members.map fun n => (n, hex v + (n - (range r).first))
  | _, [r, v] => (range r).members.map fun n => (n, hex v)
  | _, _ => []

end PlanningSearch.Text.Words
