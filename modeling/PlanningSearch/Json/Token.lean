import PlanningSearch.Number.Shortest

/-!
JSON text as a list of tokens. A fault in the text ends the list. Reading and skipping a token can
differ: a number too large to represent and an escape for half of a surrogate pair cannot be read
but can be stepped over, so a token carries both outcomes.
-/

namespace PlanningSearch.Json

inductive Fault where
  | malformed
  | unfinished
  deriving DecidableEq, Repr

inductive Number where
  | int (value : Int)
  | real (value : Binary64)
  deriving DecidableEq, Repr

def Number.render : Number → String
  | .int i => toString i
  | .real x => Binary64.jsonStyle.render x

inductive Mark where
  | openArray
  | closeArray
  | openObject
  | closeObject
  | comma
  | colon
  deriving DecidableEq, Repr

inductive Token where
  | mark (m : Mark)
  | null
  | bool (b : Bool)
  | number (reading : Except Fault Number) (skipping : Option Fault)
  | text (reading : Except Fault (List Char)) (skipping : Option Fault)
  | broken (fault : Fault)

namespace Token

def maxWord : Nat := UInt64.size - 1

def isDigit (c : Char) : Bool := '0' ≤ c && c ≤ '9'

def digit (c : Char) : Nat := c.toNat - '0'.toNat

def hexDigit? (c : Char) : Option Nat :=
  if isDigit c then some (digit c)
  else if 'a' ≤ c && c ≤ 'f' then some (c.toNat - 'a'.toNat + 10)
  else if 'A' ≤ c && c ≤ 'F' then some (c.toNat - 'A'.toNat + 10)
  else none

def hex4? (a b c d : Char) : Option Nat :=
  match hexDigit? a, hexDigit? b, hexDigit? c, hexDigit? d with
  | some a, some b, some c, some d => some (((a * 16 + b) * 16 + c) * 16 + d)
  | _, _, _, _ => none

/-- The fault of an escape `\u` with fewer than four characters after it: the text has ended
unless they take up four bytes or more. -/
def shortHex (rest : List Char) : Fault :=
  if (String.ofList rest).utf8ByteSize < 4 then .unfinished else .malformed

def simpleEscape? (c : Char) : Option Char :=
  match c with
  | '"' => some '"'
  | '\\' => some '\\'
  | '/' => some '/'
  | 'b' => some '\x08'
  | 'f' => some '\x0c'
  | 'n' => some '\n'
  | 'r' => some '\r'
  | 't' => some '\t'
  | _ => none

def isHigh (n : Nat) : Bool := 0xD800 ≤ n && n ≤ 0xDBFF

def isLow (n : Nat) : Bool := 0xDC00 ≤ n && n ≤ 0xDFFF

def isControl (c : Char) : Bool := c.toNat < 0x20

def readText : List Char → Except Fault (List Char)
  | [] => .error .unfinished
  | '"' :: _ => .ok []
  | '\\' :: 'u' :: a :: b :: c :: d :: cs =>
    match hex4? a b c d with
    | none => .error .malformed
    | some n =>
      if isLow n then .error .malformed
      else if isHigh n then
        match cs with
        | [] => .error .unfinished
        | ['\\'] => .error .unfinished
        | '\\' :: 'u' :: e :: f :: g :: h :: cs =>
          match hex4? e f g h with
          | none => .error .malformed
          | some m =>
            if isLow m then
              (readText cs).map (Char.ofNat (0x10000 + (n - 0xD800) * 0x400 + (m - 0xDC00)) :: ·)
            else .error .malformed
        | '\\' :: 'u' :: rest => .error (shortHex rest)
        | _ => .error .malformed
      else (readText cs).map (Char.ofNat n :: ·)
  | '\\' :: 'u' :: rest => .error (shortHex rest)
  | ['\\'] => .error .unfinished
  | '\\' :: c :: cs =>
    match simpleEscape? c with
    | none => .error .malformed
    | some x => (readText cs).map (x :: ·)
  | c :: cs => if isControl c then .error .malformed else (readText cs).map (c :: ·)

def skipText : List Char → Except Fault (List Char)
  | [] => .error .unfinished
  | '"' :: cs => .ok cs
  | '\\' :: 'u' :: a :: b :: c :: d :: cs =>
    match hex4? a b c d with
    | none => .error .malformed
    | some _ => skipText cs
  | '\\' :: 'u' :: rest => .error (shortHex rest)
  | ['\\'] => .error .unfinished
  | '\\' :: c :: cs => if (simpleEscape? c).isNone then .error .malformed else skipText cs
  | c :: cs => if isControl c then .error .malformed else skipText cs

structure Numeral where
  negative : Bool
  whole : List Char
  fraction : Option (List Char)
  exponent : Option (Bool × List Char)

def someDigits (cs : List Char) : Except Fault (List Char × List Char) :=
  match cs.takeWhile isDigit, cs.dropWhile isDigit with
  | [], [] => .error .unfinished
  | [], _ => .error .malformed
  | ds, rest => .ok (ds, rest)

def wholePart (cs : List Char) : Except Fault (List Char × List Char) :=
  match cs with
  | '0' :: rest =>
    match rest with
    | c :: _ => if isDigit c then .error .malformed else .ok (['0'], rest)
    | [] => .ok (['0'], rest)
  | cs => someDigits cs

def fractionPart (cs : List Char) : Except Fault (Option (List Char) × List Char) :=
  match cs with
  | '.' :: rest => (someDigits rest).map fun r => (some r.1, r.2)
  | cs => .ok (none, cs)

def exponentPart (cs : List Char) : Except Fault (Option (Bool × List Char) × List Char) :=
  match cs with
  | c :: rest =>
    if c == 'e' || c == 'E' then
      match rest with
      | '+' :: rest => (someDigits rest).map fun r => (some (false, r.1), r.2)
      | '-' :: rest => (someDigits rest).map fun r => (some (true, r.1), r.2)
      | rest => (someDigits rest).map fun r => (some (false, r.1), r.2)
    else .ok (none, cs)
  | [] => .ok (none, [])

def numeral (cs : List Char) : Except Fault (Numeral × List Char) := do
  let negative := cs.head? == some '-'
  let whole ← wholePart (if negative then cs.drop 1 else cs)
  let fraction ← fractionPart whole.2
  let exponent ← exponentPart fraction.2
  return (⟨negative, whole.1, fraction.1, exponent.1⟩, exponent.2)

def takeWhole (significand places : Nat) : List Char → Nat × Nat
  | [] => (significand, places)
  | c :: cs =>
    if places = 0 ∧ significand * 10 + digit c ≤ maxWord then
      takeWhole (significand * 10 + digit c) 0 cs
    else takeWhole significand (places + 1) cs

def takeFraction (significand taken : Nat) : List Char → Nat × Nat
  | [] => (significand, taken)
  | c :: cs =>
    if significand * 10 + digit c ≤ maxWord then
      takeFraction (significand * 10 + digit c) (taken + 1) cs
    else (significand, taken)

def decimal (cs : List Char) : Nat := cs.foldl (fun n c => n * 10 + digit c) 0

/-- `significand * 10 ^ exponent`, the significand, the power and the result each rounded. An
exponent below -308 is applied in two steps. -/
def scaled (significand : Nat) (exponent : Int) : Option Binary64 := do
  let s ← Binary64.ofNat significand
  if significand = 0 ∨ exponent < -616 then return Binary64.zero
  else if 308 < exponent then none
  else if 0 ≤ exponent then s.mul (← Binary64.ofNat (Nat.pow 10 exponent.toNat))
  else if -308 ≤ exponent then s.div (← Binary64.ofNat (Nat.pow 10 (-exponent).toNat))
  else
    let t ← s.div (← Binary64.ofNat (Nat.pow 10 308))
    t.div (← Binary64.ofNat (Nat.pow 10 (-exponent - 308).toNat))

def Numeral.value (n : Numeral) : Except Fault Number :=
  let whole := takeWhole 0 0 n.whole
  let frac := takeFraction whole.1 0 (n.fraction.getD [])
  let real (exponent : Int) : Except Fault Number :=
    match scaled frac.1 exponent with
    | some x => .ok (.real (x.withSign n.negative))
    | none => .error .malformed
  let base : Int := (whole.2 : Int) - frac.2
  match n.fraction, n.exponent with
  | none, none =>
    if 0 < whole.2 then real base
    else if !n.negative then .ok (.int whole.1)
    else if whole.1 = 0 ∨ -(whole.1 : Int) < Int64.minValue.toInt then real 0
    else .ok (.int (-(whole.1 : Int)))
  | _, none => real base
  | _, some (below, ds) =>
    let e : Int := decimal ds
    real (if below then base - e else base + e)

def dropBlank (cs : List Char) : List Char :=
  cs.dropWhile fun c => c == ' ' || c == '\n' || c == '\t' || c == '\r'

def word (expected cs : List Char) : Except Fault (List Char) :=
  match expected, cs with
  | [], cs => .ok cs
  | _ :: _, [] => .error .unfinished
  | e :: es, c :: cs => if e = c then word es cs else .error .malformed

def next (c : Char) (cs : List Char) : Token × Option (List Char) :=
  let fixed (t : Token) (expected : String) : Token × Option (List Char) :=
    match word expected.toList cs with
    | .ok rest => (t, some rest)
    | .error f => (.broken f, none)
  match c with
  | '[' => (.mark .openArray, some cs)
  | ']' => (.mark .closeArray, some cs)
  | '\x7b' => (.mark .openObject, some cs)
  | '\x7d' => (.mark .closeObject, some cs)
  | ',' => (.mark .comma, some cs)
  | ':' => (.mark .colon, some cs)
  | 'n' => fixed .null "ull"
  | 't' => fixed (.bool true) "rue"
  | 'f' => fixed (.bool false) "alse"
  | '"' =>
    match skipText cs with
    | .ok rest => (.text (readText cs) none, some rest)
    | .error f => (.text (readText cs) (some f), none)
  | c =>
    if c == '-' || isDigit c then
      match numeral (c :: cs) with
      | .ok (n, rest) => (.number n.value none, some rest)
      | .error f => (.number (.error f) (some .malformed), none)
    else (.broken .malformed, none)

/-- The tokens of a text; `fuel` bounds their number. -/
def scan : Nat → List Char → List Token
  | 0, _ => []
  | fuel + 1, cs =>
    match dropBlank cs with
    | [] => []
    | c :: cs =>
      match next c cs with
      | (t, none) => [t]
      | (t, some rest) => t :: scan fuel rest

end Token

def tokens (text : String) : List Token := Token.scan text.toList.length text.toList

end PlanningSearch.Json
