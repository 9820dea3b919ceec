import PlanningSearch.Json.Value
import PlanningSearch.Text.Blank
import PlanningSearch.Text.Casing

/-!
Loosely typed setting values, as files and environment variables give them, and their conversion to
the texts and sizes that the settings hold.
-/

namespace PlanningSearch.Settings

inductive Real where
  | finite (x : Binary64)
  | infinite (negative : Bool)
  | nan
  deriving DecidableEq, Repr

inductive Loose where
  | nothing
  | bool (b : Bool)
  | int (i : Int)
  | real (r : Real)
  | text (s : String)
  | list
  | table
  deriving DecidableEq, Repr

namespace Real

def render : Real → String
  | finite x => Binary64.plainStyle.render x
  | infinite negative => if negative then "-inf" else "inf"
  | nan => "NaN"

def maxSize : Nat := UInt64.size - 1

/-- The nearest size: rounded half away from zero, negative values and NaN as zero. -/
def toSize : Real → UInt64
  | finite x => if x.negative then 0 else UInt64.ofNat (min x.roundAway maxSize)
  | infinite negative => if negative then 0 else UInt64.ofNat maxSize
  | nan => 0

def isDigit (c : Char) : Bool := '0' ≤ c && c ≤ '9'

def decimal (cs : List Char) : Nat := cs.foldl (fun n c => n * 10 + (c.toNat - '0'.toNat)) 0

def exponent? (cs : List Char) : Option Int :=
  let digits (cs : List Char) : Option Nat :=
    if cs.isEmpty || !cs.all isDigit then none else some (decimal cs)
  match cs with
  | '-' :: cs => (digits cs).map fun n => -(n : Int)
  | '+' :: cs => (digits cs).map fun n => (n : Int)
  | cs => (digits cs).map fun n => (n : Int)

def ofParts (negative : Bool) (whole fraction : List Char) (exponent : Int) : Real :=
  match Binary64.ofDecimal negative (decimal (whole ++ fraction))
      (exponent - (fraction.length : Int)) with
  | some x => finite x
  | none => infinite negative

def ofUnsigned? (negative : Bool) (cs : List Char) : Option Real :=
  let whole := cs.takeWhile isDigit
  let rest := cs.dropWhile isDigit
  let fraction := match rest with
    | '.' :: rest => rest.takeWhile isDigit
    | _ => []
  let rest := match rest with
    | '.' :: rest => rest.dropWhile isDigit
    | rest => rest
  if whole.isEmpty && fraction.isEmpty then
    match String.ofList (cs.map Text.asciiLower) with
    | "inf" => some (infinite negative)
    | "infinity" => some (infinite negative)
    | "nan" => some nan
    | _ => none
  else match rest with
    | [] => some (ofParts negative whole fraction 0)
    | 'e' :: rest => (exponent? rest).map (ofParts negative whole fraction)
    | 'E' :: rest => (exponent? rest).map (ofParts negative whole fraction)
    | _ => none

def ofText? (s : String) : Option Real :=
  match s.toList with
  | '-' :: cs => ofUnsigned? true cs
  | '+' :: cs => ofUnsigned? false cs
  | cs => ofUnsigned? false cs

end Real

def int64? (s : String) : Option Int :=
  let digits (cs : List Char) (sign : Int) : Option Int :=
    if cs.isEmpty || !cs.all Real.isDigit then none
    else
      let i := sign * (Real.decimal cs : Int)
      if Int64.minValue.toInt ≤ i ∧ i ≤ Int64.maxValue.toInt then some i else none
  match s.toList with
  | '-' :: cs => digits cs (-1)
  | '+' :: cs => digits cs 1
  | cs => digits cs 1

namespace Loose

/-- What a text in the environment stands for: a truth value, an integer or a number if it reads
as one, else itself. -/
def ofText (s : String) : Loose :=
  match Text.lower s with
  | "true" => bool true
  | "false" => bool false
  | _ =>
    match int64? s with
    | some i => int i
    | none =>
      match Real.ofText? s with
      | some r => real r
      | none => text s

def toText? : Loose → Option String
  | bool b => some (if b then "true" else "false")
  | int i => some (toString i)
  | real r => some r.render
  | text s => some s
  | nothing | list | table => none

def size? (s : String) : Option UInt64 :=
  let cs := match s.toList with
    | '+' :: cs => cs
    | cs => cs
  if cs.isEmpty || !cs.all Real.isDigit || Real.maxSize < Real.decimal cs then none
  else some (UInt64.ofNat (Real.decimal cs))

def toSize? : Loose → Option UInt64
  | bool b => some (if b then 1 else 0)
  | int i => if i < 0 then none else some (UInt64.ofNat i.toNat)
  | real r => some r.toSize
  | text s =>
    match Text.lower s with
    | "true" | "on" | "yes" => some 1
    | "false" | "off" | "no" => some 0
    | _ => size? s
  | nothing | list | table => none

def ofJson : Json.Value → Loose
  | .null => nothing
  | .bool b => bool b
  | .number (.int i) =>
    if i ≤ Int64.maxValue.toInt then int i
    else match Binary64.ofInt i with
      | some x => real (.finite x)
      | none => real (.infinite false)
  | .number (.real x) => real (.finite x)
  | .text s => text s
  | .array _ => list
  | .object _ => table

end Loose

end PlanningSearch.Settings
