/-!
Finite binary64 numbers as exact values `mantissa * 2 ^ exponent`, and rounding of a quotient to
the nearest of them. A tie goes to the even mantissa; a value beyond the largest finite number has
no rounding.
-/

namespace PlanningSearch

/-- A finite binary64 number. The mantissa has at most 53 bits and the exponent is least possible,
never below -1074; zero keeps its sign. -/
structure Binary64 where
  negative : Bool
  mantissa : Nat
  exponent : Int
  deriving DecidableEq, Repr

namespace Binary64

def zero : Binary64 := ⟨false, 0, -1074⟩

def leadingExponent (num den : Nat) : Int :=
  let e : Int := (num.log2 : Int) - den.log2
  if num * Nat.pow 2 (-e).toNat ≥ den * Nat.pow 2 e.toNat then e else e - 1

/-- The quotient rounded to an integer, a half going to the even neighbour. -/
def nearest (num den : Nat) : Nat :=
  let q := num / den
  let r := num % den
  if 2 * r < den then q else if 2 * r > den then q + 1 else q + q % 2

def ofQuotient (negative : Bool) (num den : Nat) : Option Binary64 :=
  if num = 0 then some ⟨negative, 0, -1074⟩
  else
    let q := max (leadingExponent num den - 52) (-1074)
    let m := nearest (num * Nat.pow 2 (-q).toNat) (den * Nat.pow 2 q.toNat)
    let fixed := if m = Nat.pow 2 53 then (Nat.pow 2 52, q + 1) else (m, q)
    if fixed.2 > 971 then none else some ⟨negative, fixed.1, fixed.2⟩

def ofNat (n : Nat) : Option Binary64 := ofQuotient false n 1

def ofInt (i : Int) : Option Binary64 := ofQuotient (i < 0) i.natAbs 1

def num (x : Binary64) : Nat := x.mantissa * Nat.pow 2 x.exponent.toNat

def den (x : Binary64) : Nat := Nat.pow 2 (-x.exponent).toNat

def withSign (x : Binary64) (negative : Bool) : Binary64 := { x with negative := negative }

def mul (x y : Binary64) : Option Binary64 := ofQuotient false (x.num * y.num) (x.den * y.den)

def div (x y : Binary64) : Option Binary64 := ofQuotient false (x.num * y.den) (x.den * y.num)

def ofDecimal (negative : Bool) (digits : Nat) (exponent : Int) : Option Binary64 :=
  let width : Int := (digits.log2 + 1 : Nat)
  if digits = 0 then some ⟨negative, 0, -1074⟩
  else if exponent > 400 then none
  else if exponent + width < -1200 then some ⟨negative, 0, -1074⟩
  else ofQuotient negative (digits * Nat.pow 10 exponent.toNat) (Nat.pow 10 (-exponent).toNat)

def roundAway (x : Binary64) : Nat := (2 * x.num + x.den) / (2 * x.den)

end Binary64

end PlanningSearch
