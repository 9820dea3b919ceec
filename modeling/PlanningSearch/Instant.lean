import PlanningSearch.Text.Blank

/-!
Points in time. An instant is read from a date, a time of day and an offset from universal time,
with some freedom in blanks and letters, and written in universal time with as many fraction
digits as it needs: none, three, six or nine.
-/

namespace PlanningSearch

/-- Seconds since 1970-01-01 in universal time and nanoseconds; a leap second counts its
nanoseconds from a thousand million on. -/
structure Instant where
  seconds : Int
  nanos : Nat
  deriving DecidableEq, Repr

namespace Instant

inductive Fault where
  | tooShort
  | invalid
  | outOfRange
  | trailing
  deriving DecidableEq, Repr

def Fault.message : Fault → String
  | tooShort => "premature end of input"
  | invalid => "input contains invalid characters"
  | outOfRange => "input is out of range"
  | trailing => "trailing input"

def isLeap (year : Int) : Bool :=
  year % 4 == 0 && (year % 100 != 0 || year % 400 == 0)

def monthLength (year : Int) (month : Nat) : Nat :=
  if month = 2 then (if isLeap year then 29 else 28)
  else if month = 4 ∨ month = 6 ∨ month = 9 ∨ month = 11 then 30
  else 31

def daysOfDate (year : Int) (month day : Nat) : Int :=
  let y := if month ≤ 2 then year - 1 else year
  let era := y / 400
  let yearOfEra := y % 400
  let fromMarch : Int := if month ≤ 2 then month + 9 else month - 3
  let dayOfYear := (153 * fromMarch + 2) / 5 + day - 1
  era * 146097 + (yearOfEra * 365 + yearOfEra / 4 - yearOfEra / 100 + dayOfYear) - 719468

def dateOfDays (days : Int) : Int × Nat × Nat :=
  let z := days + 719468
  let era := z / 146097
  let dayOfEra := z % 146097
  let yearOfEra := (dayOfEra - dayOfEra / 1460 + dayOfEra / 36524 - dayOfEra / 146096) / 365
  let dayOfYear := dayOfEra - (365 * yearOfEra + yearOfEra / 4 - yearOfEra / 100)
  let fromMarch := (5 * dayOfYear + 2) / 153
  let day := dayOfYear - (153 * fromMarch + 2) / 5 + 1
  let month := if fromMarch < 10 then fromMarch + 3 else fromMarch - 9
  let year := yearOfEra + era * 400 + (if month ≤ 2 then 1 else 0)
  (year, month.toNat, day.toNat)

abbrev Scan (α : Type) := Except Fault (α × List Char)

def isDigit (c : Char) : Bool := '0' ≤ c && c ≤ '9'

def decimal (cs : List Char) : Nat := cs.foldl (fun n c => n * 10 + (c.toNat - '0'.toNat)) 0

def number (most : Nat) (cs : List Char) : Scan Nat :=
  match (cs.take most).takeWhile isDigit with
  | [] => .error (if cs.isEmpty then .tooShort else .invalid)
  | ds => .ok (decimal ds, cs.drop ds.length)

def within (least most : Nat) (r : Nat × List Char) : Scan Nat :=
  if least ≤ r.1 ∧ r.1 ≤ most then .ok r else .error .outOfRange

def field (least most : Nat) (cs : List Char) : Scan Nat :=
  (number 2 (Text.trimLeft cs)).bind (within least most)

def year (cs : List Char) : Scan Int :=
  let bounded (r : Nat × List Char) (sign : Int) : Scan Int :=
    if (r.1 : Int) ≤ Int32.maxValue.toInt then .ok (sign * r.1, r.2) else .error .outOfRange
  match Text.trimLeft cs with
  | '-' :: cs => (number cs.length cs).bind fun r => bounded r (-1)
  | '+' :: cs => (number cs.length cs).bind fun r => bounded r 1
  | cs => (number 4 cs).bind fun r => bounded r 1

def literal (wanted : Char) (cs : List Char) : Except Fault (List Char) :=
  match Text.trimLeft cs with
  | [] => .error .tooShort
  | c :: cs => if c = wanted then .ok cs else .error .invalid

def fraction (cs : List Char) : Scan Nat :=
  match cs with
  | '.' :: cs =>
    (number 9 cs).map fun r =>
      (r.1 * Nat.pow 10 (9 - (cs.length - r.2.length)), r.2.dropWhile isDigit)
  | cs => .ok (0, cs)

def twoDigits (cs : List Char) : Except Fault (Char × Char × List Char) :=
  match cs with
  | [] => .error .tooShort
  | [c] => .error (if c.utf8Size < 2 then .tooShort else .invalid)
  | a :: b :: cs => if isDigit a && isDigit b then .ok (a, b, cs) else .error .invalid

def offset (cs : List Char) : Scan Int :=
  let signed (sign : Int) (cs : List Char) : Except Fault (Int × List Char) := do
    let (h1, h2, cs) ← twoDigits cs
    let cs := cs.dropWhile fun c => c == ':' || Text.isBlank c
    let (m1, m2, cs) ← twoDigits cs
    if '5' < m1 then throw .outOfRange
    return (sign * (decimal [h1, h2] * 3600 + decimal [m1, m2] * 60 : Nat), cs)
  match cs with
  | [] => .error .tooShort
  | 'Z' :: cs => .ok (0, cs)
  | 'z' :: cs => .ok (0, cs)
  | '+' :: cs => signed 1 cs
  | '-' :: cs => signed (-1) cs
  | '\u2212' :: cs => signed (-1) cs
  | _ => .error .invalid

def zone (cs : List Char) : Scan Int :=
  match cs with
  | a :: b :: c :: rest =>
    if [a, b, c].map Char.toUpper == ['U', 'T', 'C'] then .ok (0, rest) else offset cs
  | cs => offset cs

def parse (text : String) : Except Fault Instant := do
  let (y, cs) ← year text.toList
  let cs ← literal '-' cs
  let (mo, cs) ← field 1 12 cs
  let cs ← literal '-' cs
  let (d, cs) ← field 1 31 cs
  let cs ← match cs with
    | [] => .error .tooShort
    | c :: cs => if c = 't' ∨ c = 'T' ∨ c = ' ' then .ok cs else .error .invalid
  let (h, cs) ← field 0 23 cs
  let cs ← literal ':' cs
  let (mi, cs) ← field 0 59 cs
  let cs ← literal ':' cs
  let (s, cs) ← field 0 60 cs
  let (nanos, cs) ← fraction cs
  let (off, cs) ← zone (Text.trimLeft cs)
  if !(Text.trimLeft cs).isEmpty then throw .trailing
  if y < -262143 ∨ 262142 < y ∨ monthLength y mo < d then throw .outOfRange
  if 86400 ≤ off.natAbs then throw .outOfRange
  let whole := if s = 60 then 59 else s
  let leap := if s = 60 then 1000000000 else 0
  return ⟨daysOfDate y mo d * 86400 + (h * 3600 + mi * 60 + whole : Nat) - off, nanos + leap⟩

def padded (width n : Nat) : List Char :=
  let ds := Nat.toDigits 10 n
  List.replicate (width - ds.length) '0' ++ ds

def yearChars (y : Int) : List Char :=
  if 0 ≤ y ∧ y ≤ 9999 then padded 4 y.toNat
  else (if y < 0 then '-' else '+') :: padded 4 y.natAbs

def fractionChars (nanos : Nat) : List Char :=
  if nanos = 0 then []
  else if nanos % 1000000 = 0 then '.' :: padded 3 (nanos / 1000000)
  else if nanos % 1000 = 0 then '.' :: padded 6 (nanos / 1000)
  else '.' :: padded 9 nanos

def render (i : Instant) : String :=
  let (y, mo, d) := dateOfDays (i.seconds / 86400)
  let second := (i.seconds % 86400).toNat
  let leap := i.nanos / 1000000000
  String.ofList (yearChars y ++ '-' :: padded 2 mo ++ '-' :: padded 2 d ++ 'T' ::
    padded 2 (second / 3600) ++ ':' :: padded 2 (second / 60 % 60) ++ ':' ::
    padded 2 (second % 60 + leap) ++ fractionChars (i.nanos % 1000000000) ++ ['Z'])

end Instant

end PlanningSearch
