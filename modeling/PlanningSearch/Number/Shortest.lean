import PlanningSearch.Number.Binary64

/-!
Shortest decimal digits of a binary64 number. `shortest` gives the fewest digits that read back as
the number and, among those, the nearest ones; `Style` says how digits are laid out as text.
-/

namespace PlanningSearch.Binary64

def digitCount (n : Nat) : Nat := (Nat.toDigits 10 n).length

def leadingDecimal (num den : Nat) : Int :=
  if den ≤ num then (digitCount (num / den) : Int) - 1
  else -(digitCount ((den + num - 1) / num - 1) : Int)

/-- Twice the interval of reals that round to a positive number, as integers over `4 * den`. -/
structure Basin where
  low : Nat
  value : Nat
  high : Nat
  closed : Bool

def basin (x : Binary64) : Basin :=
  let scale := Nat.pow 2 x.exponent.toNat
  let m := x.mantissa
  let below := if m = Nat.pow 2 52 ∧ -1074 < x.exponent then 1 else 2
  ⟨(4 * m - below) * scale, 4 * m * scale, (4 * m + 2) * scale, m % 2 = 0⟩

def Basin.holds (b : Basin) (v : Nat) : Bool :=
  if b.closed then b.low ≤ v && v ≤ b.high else b.low < v && v < b.high

/-- The digits on the grid of `10 ^ unit` that read back as the number, if any. -/
def onGrid (x : Binary64) (unit : Int) : Option Nat :=
  let b := x.basin
  let up := Nat.pow 10 unit.toNat * (4 * x.den)
  let down := Nat.pow 10 (-unit).toNat
  let value := b.value * down
  let d := value / up
  let scaled : Basin := ⟨b.low * down, value, b.high * down, b.closed⟩
  let lower := scaled.holds (d * up)
  let upper := scaled.holds ((d + 1) * up)
  let r := value % up
  if lower && upper then
    some (if 2 * r < up then d else if up < 2 * r then d + 1 else d + d % 2)
  else if lower then some d
  else if upper then some (d + 1)
  else none

def firstGrid (x : Binary64) (lead : Int) : Nat → Nat → Nat × Int
  | 0, _ => (x.num / x.den, 0)
  | fuel + 1, n =>
    let unit := lead + 1 - (n : Int)
    match x.onGrid unit with
    | some d => (d, unit)
    | none => firstGrid x lead fuel (n + 1)

def dropZeros (fuel : Nat) (digits : Nat) (unit : Int) : Nat × Int :=
  match fuel with
  | 0 => (digits, unit)
  | fuel + 1 => if digits % 10 = 0 then dropZeros fuel (digits / 10) (unit + 1) else (digits, unit)

def shortest (x : Binary64) : Nat × Int :=
  let found := firstGrid x (leadingDecimal x.num x.den) 17 1
  dropZeros 20 found.1 found.2

/-- How digits are laid out: the leading exponents that are written positionally (none for all of
them) and whether an integral value keeps a `.0`. -/
structure Style where
  positional : Option (Int × Int)
  keepPoint : Bool

def zeros (n : Nat) : List Char := List.replicate n '0'

def Style.isPositional (s : Style) (lead : Int) : Bool :=
  match s.positional with
  | none => true
  | some (least, most) => least ≤ lead && lead ≤ most

def layoutPositional (s : Style) (digits : List Char) (unit lead : Int) : List Char :=
  if 0 ≤ unit then
    digits ++ zeros unit.toNat ++ (if s.keepPoint then ['.', '0'] else [])
  else if 0 ≤ lead then
    let whole := (lead + 1).toNat
    digits.take whole ++ '.' :: digits.drop whole
  else '0' :: '.' :: zeros (-lead - 1).toNat ++ digits

def layoutScientific (digits : List Char) (lead : Int) : List Char :=
  let fraction := match digits.drop 1 with
    | [] => []
    | rest => '.' :: rest
  digits.take 1 ++ fraction ++ 'e' :: (if lead < 0 then '-' else '+') ::
    Nat.toDigits 10 lead.natAbs

def Style.render (s : Style) (x : Binary64) : String :=
  let body :=
    if x.mantissa = 0 then '0' :: (if s.keepPoint then ['.', '0'] else [])
    else
      let found := x.shortest
      let digits := Nat.toDigits 10 found.1
      let lead := found.2 + (digits.length : Int) - 1
      if s.isPositional lead then layoutPositional s digits found.2 lead
      else layoutScientific digits lead
  String.ofList (if x.negative then '-' :: body else body)

def jsonStyle : Style := ⟨some (-5, 15), true⟩

def plainStyle : Style := ⟨none, false⟩

end PlanningSearch.Binary64
