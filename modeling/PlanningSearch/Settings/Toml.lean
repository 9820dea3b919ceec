import PlanningSearch.Instant
import PlanningSearch.Settings.Loose

/-!
Settings files in TOML. Only the top-level names and the kinds of their values matter, so a
document is read into a list of defined paths: each path is a value, or a table made by a header,
by a dotted name or on the way to another table. A name must not be defined twice.
-/

namespace PlanningSearch.Settings.Toml

abbrev Scan (α : Type) := Option (α × List Char)

def isControl (c : Char) : Bool := (c.toNat < 0x20 && c != '\t') || c.toNat == 0x7F

def skipSpace (cs : List Char) : List Char := cs.dropWhile fun c => c == ' ' || c == '\t'

def skipComment (cs : List Char) : Option (List Char) :=
  match cs with
  | '#' :: cs =>
    match cs.dropWhile fun c => !isControl c with
    | [] => some []
    | '\n' :: rest => some ('\n' :: rest)
    | '\r' :: '\n' :: rest => some ('\n' :: rest)
    | _ => none
  | cs => some cs

def newline? (cs : List Char) : Option (List Char) :=
  match cs with
  | '\n' :: cs => some cs
  | '\r' :: '\n' :: cs => some cs
  | _ => none

def skipLines (fuel : Nat) (cs : List Char) : Option (List Char) :=
  match fuel with
  | 0 => some cs
  | fuel + 1 =>
    (skipComment (skipSpace cs)).bind fun cs =>
      match newline? cs with
      | some cs => skipLines fuel cs
      | none => some cs

def endLine (cs : List Char) : Option (List Char) :=
  (skipComment (skipSpace cs)).bind fun cs =>
    if cs.isEmpty then some [] else newline? cs

def hexDigit? (c : Char) : Option Nat :=
  if '0' ≤ c && c ≤ '9' then some (c.toNat - '0'.toNat)
  else if 'a' ≤ c && c ≤ 'f' then some (c.toNat - 'a'.toNat + 10)
  else if 'A' ≤ c && c ≤ 'F' then some (c.toNat - 'A'.toNat + 10)
  else none

def scalar? (digits : List Char) : Option Char :=
  (digits.mapM hexDigit?).bind fun ds =>
    let n := ds.foldl (fun n d => n * 16 + d) 0
    if n < 0xD800 ∨ (0xE000 ≤ n ∧ n ≤ 0x10FFFF) then some (Char.ofNat n) else none

def escape? (cs : List Char) : Scan Char :=
  match cs with
  | 'b' :: cs => some ('\x08', cs)
  | 't' :: cs => some ('\t', cs)
  | 'n' :: cs => some ('\n', cs)
  | 'f' :: cs => some ('\x0c', cs)
  | 'r' :: cs => some ('\r', cs)
  | '"' :: cs => some ('"', cs)
  | '\\' :: cs => some ('\\', cs)
  | 'e' :: cs => some ('\x1b', cs)
  | 'x' :: cs => if cs.length < 2 then none else (scalar? (cs.take 2)).map fun c => (c, cs.drop 2)
  | 'u' :: cs => if cs.length < 4 then none else (scalar? (cs.take 4)).map fun c => (c, cs.drop 4)
  | 'U' :: cs => if cs.length < 8 then none else (scalar? (cs.take 8)).map fun c => (c, cs.drop 8)
  | _ => none

def keep (c : Char) (r : Scan (List Char)) : Scan (List Char) := r.map fun r => (c :: r.1, r.2)

def basic : Nat → List Char → Scan (List Char)
  | 0, _ => none
  | _, [] => none
  | _, '"' :: cs => some ([], cs)
  | fuel + 1, '\\' :: cs => (escape? cs).bind fun r => keep r.1 (basic fuel r.2)
  | fuel + 1, c :: cs => if isControl c then none else keep c (basic fuel cs)

def literal : List Char → Scan (List Char)
  | [] => none
  | '\'' :: cs => some ([], cs)
  | c :: cs => if isControl c then none else keep c (literal cs)

/-- The quotes at the end of a text over several lines: up to two belong to the text. -/
def closing (q : Char) (cs : List Char) : Scan (List Char) :=
  match cs with
  | a :: b :: cs => if a = q ∧ b = q then some ([q, q], cs)
    else if a = q then some ([q], b :: cs) else some ([], a :: b :: cs)
  | [a] => if a = q then some ([q], []) else some ([], [a])
  | [] => some ([], [])

def isGap (c : Char) : Bool := c == ' ' || c == '\t' || c == '\n' || c == '\r'

def multiBasic : Nat → List Char → Scan (List Char)
  | 0, _ => none
  | _, [] => none
  | _, '"' :: '"' :: '"' :: cs => closing '"' cs
  | fuel + 1, '\\' :: cs =>
    match newline? (skipSpace cs) with
    | some cs => multiBasic fuel (cs.dropWhile isGap)
    | none => (escape? cs).bind fun r => keep r.1 (multiBasic fuel r.2)
  | fuel + 1, '\r' :: '\n' :: cs => keep '\n' (multiBasic fuel cs)
  | fuel + 1, c :: cs =>
    if isControl c && c != '\n' then none else keep c (multiBasic fuel cs)

def multiLiteral : List Char → Scan (List Char)
  | [] => none
  | '\'' :: '\'' :: '\'' :: cs => closing '\'' cs
  | '\r' :: '\n' :: cs => keep '\n' (multiLiteral cs)
  | c :: cs => if isControl c && c != '\n' then none else keep c (multiLiteral cs)

def dropNewline (cs : List Char) : List Char := (newline? cs).getD cs

def quoted? (cs : List Char) : Scan String :=
  let chars : Scan (List Char) := match cs with
    | '"' :: '"' :: '"' :: cs => multiBasic (cs.length + 1) (dropNewline cs)
    | '\'' :: '\'' :: '\'' :: cs => multiLiteral (dropNewline cs)
    | '"' :: cs => basic (cs.length + 1) cs
    | '\'' :: cs => literal cs
    | _ => none
  chars.map fun r => (String.ofList r.1, r.2)

def isBare (c : Char) : Bool :=
  ('a' ≤ c && c ≤ 'z') || ('A' ≤ c && c ≤ 'Z') || ('0' ≤ c && c ≤ '9') || c == '_' || c == '-'

def simpleName (cs : List Char) : Scan String :=
  match cs with
  | '"' :: cs => (basic (cs.length + 1) cs).map fun r => (String.ofList r.1, r.2)
  | '\'' :: cs => (literal cs).map fun r => (String.ofList r.1, r.2)
  | cs =>
    match cs.takeWhile isBare with
    | [] => none
    | name => some (String.ofList name, cs.dropWhile isBare)

def dottedName : Nat → List Char → Scan (List String)
  | 0, _ => none
  | fuel + 1, cs =>
    (simpleName (skipSpace cs)).bind fun r =>
      match skipSpace r.2 with
      | '.' :: cs => (dottedName fuel cs).map fun r' => (r.1 :: r'.1, r'.2)
      | cs => some ([r.1], cs)

def name (cs : List Char) : Scan (List String) := dottedName (cs.length + 1) cs

def plainDigits (ok : Char → Bool) : List Char → Option (List Char)
  | [] => none
  | [c] => if ok c then some [c] else none
  | c :: '_' :: cs => if ok c then (plainDigits ok cs).map (c :: ·) else none
  | c :: cs => if ok c then (plainDigits ok cs).map (c :: ·) else none

def ofBase (base : Nat) (cs : List Char) : Option Loose :=
  let ok (c : Char) : Bool := match hexDigit? c with
    | some d => d < base
    | none => false
  (plainDigits ok cs).bind fun ds =>
    let n := ds.foldl (fun n c => n * base + (hexDigit? c).getD 0) 0
    if (n : Int) ≤ Int64.maxValue.toInt then some (.int n) else none

def isDigit (c : Char) : Bool := '0' ≤ c && c ≤ '9'

def wholeDigits (cs : List Char) : Option (List Char) :=
  (plainDigits isDigit cs).filter fun ds => ds.length == 1 || ds.head? != some '0'

def unsignedReal (negative : Bool) (cs : List Char) : Option Loose :=
  let isE (c : Char) : Bool := c == 'e' || c == 'E'
  let front := cs.takeWhile fun c => !isE c
  let whole := front.takeWhile (· != '.')
  let exponent : Option Int := match cs.dropWhile fun c => !isE c with
    | [] => some 0
    | _ :: e =>
      let signed := e.head? == some '-' || e.head? == some '+'
      (plainDigits isDigit (if signed then e.drop 1 else e)).map fun ds =>
        (if e.head? == some '-' then -1 else 1) * (Real.decimal ds : Int)
  let fraction : Option (List Char) := match front.dropWhile (· != '.') with
    | [] => some []
    | _ :: f => plainDigits isDigit f
  match wholeDigits whole, fraction, exponent with
  | some w, some f, some e =>
    match Real.ofParts negative w f e with
    | .finite x => some (.real (.finite x))
    | _ => none
  | _, _, _ => none

def unsigned (negative : Bool) (cs : List Char) : Option Loose :=
  match String.ofList cs with
  | "inf" => some (.real (.infinite negative))
  | "nan" => some (.real .nan)
  | _ =>
    if cs.any fun c => c == '.' || c == 'e' || c == 'E' then unsignedReal negative cs
    else (wholeDigits cs).bind fun ds =>
      let i : Int := (if negative then -1 else 1) * (Real.decimal ds : Int)
      if Int64.minValue.toInt ≤ i ∧ i ≤ Int64.maxValue.toInt then some (.int i) else none

/-- Whether characters follow a pattern in which `0` stands for a digit. -/
def shaped (shape : String) (cs : List Char) : Bool :=
  shape.length == cs.length &&
    (shape.toList.zip cs).all fun p => if p.1 == '0' then isDigit p.2 else p.1 == p.2

def pair (cs : List Char) (skipped : Nat) : Nat := Real.decimal ((cs.drop skipped).take 2)

def isDate (cs : List Char) : Bool :=
  let year : Int := Real.decimal (cs.take 4)
  shaped "0000-00-00" cs && 1 ≤ pair cs 5 && pair cs 5 ≤ 12 && 1 ≤ pair cs 8 &&
    pair cs 8 ≤ Instant.monthLength year (pair cs 5)

def fraction (digits : List Char) : List Char :=
  match ((digits.take 9).reverse.dropWhile (· == '0')).reverse with
  | [] => []
  | ds => '.' :: ds

def time? (cs : List Char) : Option (List Char) :=
  if shaped "00:00" (cs.take 5) && pair cs 0 ≤ 23 && pair cs 3 ≤ 59 then
    match cs.drop 5 with
    | [] => some (cs ++ ":00".toList)
    | rest =>
      if shaped ":00" (rest.take 3) && pair rest 1 ≤ 60 then
        match rest.drop 3 with
        | [] => some cs
        | '.' :: f =>
          if f.isEmpty || !f.all isDigit then none else some (cs.take 8 ++ fraction f)
        | _ => none
      else none
  else none

def offset? (cs : List Char) : Option (List Char) :=
  if (shaped "+00:00" cs || shaped "-00:00" cs) && pair cs 1 ≤ 23 && pair cs 4 ≤ 59 then
    some (if pair cs 1 = 0 ∧ pair cs 4 = 0 then "+00:00".toList else cs)
  else none

def offsetTime? (cs : List Char) : Option (List Char) :=
  let clock := cs.takeWhile fun c => isDigit c || c == ':' || c == '.'
  (time? clock).bind fun t =>
    match cs.dropWhile fun c => isDigit c || c == ':' || c == '.' with
    | [] => some t
    | ['Z'] => some (t ++ ['Z'])
    | offset => (offset? offset).map (t ++ ·)

def moment (cs : List Char) : Option Loose :=
  let cs := cs.map Char.toUpper
  let text (cs : List Char) : Loose := .text (String.ofList cs)
  if isDate cs then some (text cs)
  else if isDate (cs.take 10) && (cs[10]? == some 'T' || cs[10]? == some ' ') then
    (offsetTime? (cs.drop 11)).map fun t => text (cs.take 10 ++ 'T' :: t)
  else (time? cs).map text

def isWordChar (c : Char) : Bool := isBare c || c == '+' || c == '.' || c == ':'

def ofWord (cs : List Char) : Option Loose :=
  match cs with
  | '0' :: 'x' :: ds => ofBase 16 ds
  | '0' :: 'o' :: ds => ofBase 8 ds
  | '0' :: 'b' :: ds => ofBase 2 ds
  | '+' :: ds => unsigned false ds
  | '-' :: ds => unsigned true ds
  | cs =>
    match String.ofList cs with
    | "true" => some (.bool true)
    | "false" => some (.bool false)
    | _ => (unsigned false cs).or (moment cs)

def word (cs : List Char) : Scan Loose :=
  let first := cs.takeWhile isWordChar
  let rest := cs.dropWhile isWordChar
  match isDate first, rest with
  | true, ' ' :: c :: more =>
    if isDigit c then
      let second := (c :: more).takeWhile isWordChar
      (ofWord (first ++ ' ' :: second)).map fun v => (v, (c :: more).dropWhile isWordChar)
    else (ofWord first).map fun v => (v, rest)
  | _, _ => (ofWord first).map fun v => (v, rest)

inductive Kind where
  | value (v : Loose)
  | dotted
  | header
  | implied
  | tables (count : Nat)
  deriving DecidableEq

abbrev Defs := List (List String × Kind)

def Defs.find (d : Defs) (p : List String) : Option Kind :=
  (d.find? fun e => e.1 == p).map Prod.snd

def Defs.put (d : Defs) (p : List String) (k : Kind) : Defs :=
  (p, k) :: d.filter fun e => e.1 != p

def Defs.throughDots (d : Defs) (here : List String) : List String → Option (Defs × List String)
  | [] => none
  | [last] => some (d, here ++ [last])
  | n :: ns =>
    let p := here ++ [n]
    match d.find p with
    | none => throughDots (d.put p .dotted) p ns
    | some .dotted => throughDots d p ns
    | some _ => none

def Defs.setValue (d : Defs) (here names : List String) (v : Loose) : Option Defs :=
  (d.throughDots here names).bind fun r =>
    match r.1.find r.2 with
    | none => some (r.1.put r.2 (.value v))
    | some _ => none

/-- Walks down the tables that a header passes through; in a list of tables it is the last one. -/
def Defs.throughTables (d : Defs) (here : List String) : List String → Option (Defs × List String)
  | [] => none
  | [last] => some (d, here ++ [last])
  | n :: ns =>
    let p := here ++ [n]
    match d.find p with
    | none => throughTables (d.put p .implied) p ns
    | some (.value _) => none
    | some (.tables k) => throughTables d (p ++ [toString k]) ns
    | some _ => throughTables d p ns

def Defs.openTable (d : Defs) (names : List String) : Option (Defs × List String) :=
  (d.throughTables [] names).bind fun r =>
    match r.1.find r.2 with
    | none | some .implied => some (r.1.put r.2 .header, r.2)
    | some _ => none

def Defs.openListed (d : Defs) (names : List String) : Option (Defs × List String) :=
  (d.throughTables [] names).bind fun r =>
    match r.1.find r.2 with
    | none => some (r.1.put r.2 (.tables 0), r.2 ++ ["0"])
    | some (.tables k) => some (r.1.put r.2 (.tables (k + 1)), r.2 ++ [toString (k + 1)])
    | some _ => none

def expect (c : Char) (cs : List Char) : Option (List Char) :=
  match cs with
  | d :: cs => if d = c then some cs else none
  | [] => none

mutual

def value : Nat → List Char → Scan Loose
  | 0, _ => none
  | fuel + 1, cs =>
    match cs with
    | '"' :: _ => (quoted? cs).map fun r => (.text r.1, r.2)
    | '\'' :: _ => (quoted? cs).map fun r => (.text r.1, r.2)
    | '[' :: cs => (entries fuel cs).map fun cs => (.list, cs)
    | '\x7b' :: cs => (members fuel [] cs).map fun cs => (.table, cs)
    | cs => word cs

def entries : Nat → List Char → Option (List Char)
  | 0, _ => none
  | fuel + 1, cs =>
    match skipLines (cs.length + 1) cs with
    | none => none
    | some (']' :: cs) => some cs
    | some cs =>
      match value fuel cs with
      | none => none
      | some (_, cs) =>
        match skipLines (cs.length + 1) cs with
        | some (',' :: cs) => entries fuel cs
        | some (']' :: cs) => some cs
        | _ => none

def members : Nat → Defs → List Char → Option (List Char)
  | 0, _, _ => none
  | fuel + 1, defs, cs =>
    match skipLines (cs.length + 1) cs with
    | none => none
    | some ('\x7d' :: cs) => some cs
    | some cs =>
      match name cs with
      | none => none
      | some (names, cs) =>
        match (expect '=' (skipSpace cs)).bind fun cs => value fuel (skipSpace cs) with
        | none => none
        | some (v, cs) =>
          match defs.setValue [] names v, skipLines (cs.length + 1) cs with
          | some defs, some (',' :: cs) => members fuel defs cs
          | some _, some ('\x7d' :: cs) => some cs
          | _, _ => none

end

def lines : Nat → Defs → List String → List Char → Option Defs
  | 0, _, _, _ => none
  | fuel + 1, defs, here, cs =>
    match skipLines (cs.length + 1) cs with
    | none => none
    | some [] => some defs
    | some ('[' :: '[' :: cs) => do
      let (names, cs) ← name cs
      let cs ← expect ']' cs
      let cs ← expect ']' cs
      let cs ← endLine cs
      let (defs, here) ← defs.openListed names
      lines fuel defs here cs
    | some ('[' :: cs) => do
      let (names, cs) ← name cs
      let cs ← expect ']' cs
      let cs ← endLine cs
      let (defs, here) ← defs.openTable names
      lines fuel defs here cs
    | some cs => do
      let (names, cs) ← name cs
      let cs ← expect '=' cs
      let (v, cs) ← value (cs.length + 1) (skipSpace cs)
      let cs ← endLine cs
      let defs ← defs.setValue here names v
      lines fuel defs here cs

def topLevel : List String × Kind → Option (String × Loose)
  | ([n], .value v) => some (n, v)
  | ([n], .tables _) => some (n, .list)
  | ([n], _) => some (n, .table)
  | _ => none

def parse (text : String) : Option (List (String × Loose)) :=
  (lines (text.toList.length + 2) [] [] text.toList).map fun d => d.filterMap topLevel

end PlanningSearch.Settings.Toml
