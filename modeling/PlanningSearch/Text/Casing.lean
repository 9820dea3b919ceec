import PlanningSearch.Text.Casing.Table

/-!
Lower-casing. `lower` is the full Unicode mapping: a capital sigma that ends a word becomes the
final form, and the dotted capital I becomes two characters. Names are compared by
`sameUpToCase`, which ignores the case of the letters A to Z only.
-/

namespace PlanningSearch.Text

def asciiLower (c : Char) : Char := c.toLower

def asciiLowered (s : String) : String := String.ofList (s.toList.map asciiLower)

def sameUpToCase (a b : String) : Bool := a.toList.map asciiLower == b.toList.map asciiLower

namespace Casing

def inRanges (ranges : List (Nat × Nat)) (n : Nat) : Bool :=
  ranges.any fun r => r.1 ≤ n && n ≤ r.2

/-- The lower-case form of a single character, where that form is a single character. -/
def lowerChar (c : Char) : Char :=
  if c.toNat < 128 then asciiLower c
  else match runs.findSome? (·.lower? c.toNat) with
    | some n => Char.ofNat n
    | none => c

def meetsCased (cs : List Char) : Bool :=
  match cs.dropWhile fun c => inRanges ignorable c.toNat with
  | [] => false
  | c :: _ => inRanges cased c.toNat

/-- Whether a sigma stands at the end of a word. `before` is the text before it, nearest first. -/
def endsWord (before after : List Char) : Bool := meetsCased before && !meetsCased after

def lowerAt (before after : List Char) (c : Char) : List Char :=
  if c = '\u03A3' then [if endsWord before after then '\u03C2' else '\u03C3']
  else if c = '\u0130' then ['i', '\u0307']
  else [lowerChar c]

def lowerFrom (before : List Char) : List Char → List Char
  | [] => []
  | c :: cs => lowerAt before cs c ++ lowerFrom (c :: before) cs

end Casing

def lowerChars (cs : List Char) : List Char := Casing.lowerFrom [] cs

def lower (s : String) : String := String.ofList (lowerChars s.toList)

end PlanningSearch.Text
