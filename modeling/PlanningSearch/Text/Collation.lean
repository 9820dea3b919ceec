import PlanningSearch.Text.Canonical
import PlanningSearch.Text.Collation.Table
import PlanningSearch.Text.Order

/-!
The collator of the root collation order down to accents, with which texts are sorted. A text has a
key made of the places of its characters and of their accents; texts are compared by their places
first and by their accents when the places agree. Case and width do not count, and control
characters have no weight. Texts with equal canonical decompositions have equal keys.
-/

namespace PlanningSearch.Text.Collation

structure Weight where
  place : Nat
  accent : Nat
  deriving DecidableEq, Repr

def plain : Nat := 1

def basePlaces : Std.HashMap Nat Nat :=
  .ofList (((Words.ofLines lineUp).flatMap fun w => (Words.range w).members).zipIdx 1)

def isCoreHan (n : Nat) : Bool :=
  (0x4E00 ≤ n && n ≤ 0x9FFF) ||
    [0xFA0E, 0xFA0F, 0xFA11, 0xFA13, 0xFA14, 0xFA1F, 0xFA21, 0xFA23, 0xFA24, 0xFA27, 0xFA28,
      0xFA29].contains n

def isExtendedHan (n : Nat) : Bool :=
  [(0x3400, 0x4DBF), (0x20000, 0x2A6DF), (0x2A700, 0x2B739), (0x2B740, 0x2B81D),
    (0x2B820, 0x2CEA1), (0x2CEB0, 0x2EBE0), (0x2EBF0, 0x2EE5D), (0x30000, 0x3134A),
    (0x31350, 0x323AF)].any fun r => r.1 ≤ n && n ≤ r.2

/-- The place of a character outside the line-up: ideographs in code point order, the core block
first, then everything unassigned, and at the end the replacement character and U+FFFF. -/
def impliedPlace (n : Nat) : Nat :=
  if isCoreHan n then 0x100000 + n
  else if isExtendedHan n then 0x200000 + n
  else if n = 0xFFFD then 0x500000
  else if n = 0xFFFF then 0x600000
  else 0x300000 + n

def likenedPlaces : Std.HashMap Nat Nat :=
  .ofList <| (Words.ofLines likened).flatMap fun w =>
    match w.splitOn ":", w.splitOn "=" with
    | [r, c], _ =>
      let r := Words.range r
      r.members.map fun n => (n, basePlaces.getD (Words.hex c) 0 + (n - r.first))
    | _, [r, c] => (Words.range r).members.map fun n => (n, basePlaces.getD (Words.hex c) 0)
    | _, _ => []

def placeOf (n : Nat) : Nat :=
  (basePlaces[n]?).getD ((likenedPlaces[n]?).getD (impliedPlace n))

def part (s : String) : Weight :=
  match s.splitOn "+", s.splitOn "/" with
  | [_, a], _ => ⟨0, Words.hex a⟩
  | _, [c, a] => ⟨placeOf (Words.hex c), Words.hex a⟩
  | _, _ => ⟨placeOf (Words.hex s), plain⟩

def parts (s : String) : List Weight := (s.splitOn ",").map part

def special : Std.HashMap Nat (List Weight) :=
  let spelledOut := (Words.ofLines spelled).filterMap fun w =>
    match w.splitOn ":" with
    | [c, s] => some (Words.hex c, parts s)
    | _ => none
  let accents := ((Words.ofLines marks).flatMap Words.assignments).map fun p =>
    (p.1, [(⟨0, p.2⟩ : Weight)])
  let nothing := (Words.ofLines ignored).flatMap fun w =>
    (Words.range w).members.map fun n => (n, [])
  .ofList (spelledOut ++ accents ++ nothing)

def weights (n : Nat) : List Weight :=
  if n < 128 then
    match asciiPlaces[n]? with
    | some (p + 1) => [⟨p + 1, plain⟩]
    | _ => []
  else (special[n]?).getD [⟨placeOf n, plain⟩]

structure Joint where
  tail : List Nat
  weights : List Weight

def joints : Std.HashMap Nat (List Joint) :=
  let composed := basePlaces.toList.filterMap fun p =>
    match Canonical.decompose p.1 with
    | c :: d :: ds => some (c, Joint.mk (d :: ds) [⟨p.2, plain⟩])
    | _ => none
  let listed := (Words.ofLines joined).filterMap fun w =>
    match w.splitOn ":" with
    | [k, s] =>
      match Words.hexes "+" k with
      | c :: cs => some (c, Joint.mk cs (parts s))
      | [] => none
    | _ => none
  (composed ++ listed).foldl
    (fun m p => m.insert p.1 (((m.getD p.1 []) ++ [p.2]).mergeSort fun a b =>
      b.tail.length ≤ a.tail.length)) ∅

def leadingRanges : List Words.Range := (Words.ofLines leadingVowels).map Words.range

def consonantRanges : List Words.Range := (Words.ofLines consonants).map Words.range

/-- The first mark in a run that joins with the base character, and the text without it. A mark
is hidden by one of its own class in front of it. -/
def joinApart (js : List Joint) (lastClass : Nat) : List Nat → Option (List Weight × List Nat)
  | [] => none
  | n :: ns =>
    let k := Canonical.combiningClass n
    let hit := if k = lastClass then none else js.find? fun j => j.tail == [n]
    if k = 0 then none
    else match hit with
      | some j => some (j.weights, ns)
      | none => (joinApart js k ns).map fun r => (r.1, n :: r.2)

/-- Whether a vowel changes places with a consonant behind it: one of its own script, which has a
block of 128 characters. -/
def changesPlaces (vowel consonant : Nat) : Bool :=
  leadingRanges.any (·.holds vowel) && consonantRanges.any (·.holds consonant) &&
    vowel / 128 == consonant / 128

def head (n : Nat) (ns : List Nat) : List Weight × List Nat :=
  if n < 128 && ns.head?.all (· < 128) then (weights n, ns)
  else
    let js := joints.getD n []
    match js.find? fun j => j.tail.isPrefixOf ns with
    | some j => (j.weights, ns.drop j.tail.length)
    | none =>
      match joinApart js 0 ns with
      | some r => r
      | none =>
        match ns with
        | c :: cs =>
          if changesPlaces n c then (weights c ++ weights n, cs)
          else (weights n, ns)
        | [] => (weights n, [])

def weigh : Nat → List Nat → List Weight
  | _, [] => []
  | 0, _ => []
  | fuel + 1, n :: ns =>
    let h := head n ns
    h.1 ++ weigh fuel h.2

def lowerCode (n : Nat) : Nat := (Casing.lowerChar (Char.ofNat n)).toNat

structure Key where
  places : List Nat
  accents : List Nat
  deriving DecidableEq, Repr

def keyChars (cs : List Char) : Key :=
  let codes := (canonical cs).map lowerCode
  let ws := weigh codes.length codes
  ⟨(ws.map Weight.place).filter (· != 0), (ws.map Weight.accent).filter (· != 0)⟩

def key (s : String) : Key := keyChars s.toList

def Key.compare (a b : Key) : Ordering :=
  (Ord.compare a.places b.places).then (Ord.compare a.accents b.accents)

instance transCmp_keyCompare : Std.TransCmp Key.compare :=
  inferInstanceAs (Std.TransCmp (compareLex (compareOn Key.places) (compareOn Key.accents)))

def root : Collator where
  compare a b := (key a).compare (key b)
  transCmp := { eq_swap := transCmp_keyCompare.eq_swap
                isLE_trans := transCmp_keyCompare.isLE_trans }

end PlanningSearch.Text.Collation

namespace PlanningSearch.Text

instance rootOrder : Order where
  collator? := some Collation.root

end PlanningSearch.Text
