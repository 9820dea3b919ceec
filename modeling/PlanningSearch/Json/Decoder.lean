import PlanningSearch.Json.Value
import PlanningSearch.Text.Quoted

/-!
Decoders from JSON tokens to typed values. A decoder reads from left to right and stops at the
first failure, a fault of the text or a mismatch of shapes, whichever comes first. At most 127
brackets may be open at once, those inside a member that is skipped not counted.
-/

namespace PlanningSearch.Json

inductive Failure where
  | fault (f : Fault)
  | mismatch (message : String)
  deriving DecidableEq, Repr

/-- Reads a value from the tokens, given how many more brackets may be opened. -/
abbrev Decoder (α : Type) := Nat → List Token → Except Failure (α × List Token)

namespace Decoder

def malformed : Except Failure α := .error (.fault .malformed)

def unfinished : Except Failure α := .error (.fault .unfinished)

def mismatch (message : String) : Except Failure α := .error (.mismatch message)

def map (f : α → β) (d : Decoder α) : Decoder β := fun room ts =>
  (d room ts).map fun r => (f r.1, r.2)

def wrongKind (t : Token) (wanted : String) : Except Failure α :=
  let found (what : String) : Except Failure α :=
    mismatch ("invalid type: " ++ what ++ ", expected " ++ wanted)
  match t with
  | .null => found "null"
  | .bool b => found ("boolean \x60" ++ (if b then "true" else "false") ++ "\x60")
  | .number (.ok (.int i)) _ => found ("integer \x60" ++ toString i ++ "\x60")
  | .number (.ok (.real x)) _ =>
    found ("floating point \x60" ++ Binary64.jsonStyle.render x ++ "\x60")
  | .number (.error f) _ => .error (.fault f)
  | .text (.ok cs) _ => found ("string " ++ Text.quoted cs)
  | .text (.error f) _ => .error (.fault f)
  | .mark .openArray => found "sequence"
  | .mark .openObject => found "map"
  | .mark _ => malformed
  | .broken f => .error (.fault f)

def outOfRange (i : Int) (wanted : String) : Except Failure α :=
  mismatch ("invalid value: integer \x60" ++ toString i ++ "\x60, expected " ++ wanted)

def chars (wanted : String) : Decoder (List Char)
  | _, [] => unfinished
  | _, .text (.ok cs) _ :: ts => .ok (cs, ts)
  | _, t :: _ => wrongKind t wanted

def textAs (wanted : String) : Decoder String := (chars wanted).map String.ofList

def text : Decoder String := textAs "a string"

def bool : Decoder Bool
  | _, [] => unfinished
  | _, .bool b :: ts => .ok (b, ts)
  | _, t :: _ => wrongKind t "a boolean"

def int (least most : Int) (wanted : String) : Decoder Int
  | _, [] => unfinished
  | _, .number (.ok (.int i)) _ :: ts =>
    if least ≤ i ∧ i ≤ most then .ok (i, ts)
    else outOfRange i wanted
  | _, t :: _ => wrongKind t wanted

def word (wanted : String) : Decoder UInt64 :=
  (int 0 (UInt64.size - 1 : Nat) wanted).map fun i => UInt64.ofNat i.toNat

def word32 : Decoder UInt32 := (int 0 (UInt32.size - 1 : Nat) "u32").map fun i => UInt32.ofNat i.toNat

def int64 : Decoder Int := int Int64.minValue.toInt Int64.maxValue.toInt "i64"

def real : Decoder Binary64
  | _, [] => unfinished
  | _, .number (.ok (.real x)) _ :: ts => .ok (x, ts)
  | _, .number (.ok (.int i)) _ :: ts =>
    match Binary64.ofInt i with
    | some x => .ok (x, ts)
    | none => malformed
  | _, t :: _ => wrongKind t "f64"

def optional (d : Decoder α) : Decoder (Option α)
  | _, .null :: ts => .ok (none, ts)
  | room, ts => d.map some room ts

def colon : List Token → Except Failure (List Token)
  | [] => unfinished
  | .mark .colon :: ts => .ok ts
  | _ => malformed

def item (d : Decoder α) (first : Bool) : Decoder (Option α)
  | _, [] => unfinished
  | _, .mark .closeArray :: ts => .ok (none, .mark .closeArray :: ts)
  | room, .mark .comma :: ts =>
    if first then d.map some room (.mark .comma :: ts)
    else match ts with
      | [] => unfinished
      | .mark .closeArray :: _ => malformed
      | ts => d.map some room ts
  | room, ts => if first then d.map some room ts else malformed

def closeArray : List Token → Except Failure (List Token)
  | [] => unfinished
  | .mark .closeArray :: ts => .ok ts
  | _ => malformed

def name (first : Bool) : Decoder (Option String)
  | _, [] => unfinished
  | _, .mark .closeObject :: ts => .ok (none, ts)
  | room, .mark .comma :: ts =>
    if first then malformed
    else match ts with
      | [] => unfinished
      | .text r s :: ts => text.map some room (.text r s :: ts)
      | _ => malformed
  | room, .text r s :: ts => if first then text.map some room (.text r s :: ts) else malformed
  | _, _ => malformed

def items (d : Decoder α) (room : Nat) : Nat → Bool → List Token →
    Except Failure (List α × List Token)
  | 0, _, _ => malformed
  | fuel + 1, first, ts =>
    match item d first room ts with
    | .error e => .error e
    | .ok (none, ts) => (closeArray ts).map fun ts => ([], ts)
    | .ok (some a, ts) => (items d room fuel false ts).map fun r => (a :: r.1, r.2)

def list (d : Decoder α) : Decoder (List α)
  | _, [] => unfinished
  | 0, .mark .openArray :: _ => malformed
  | room + 1, .mark .openArray :: ts => items d room (ts.length + 1) true ts
  | _, t :: _ => wrongKind t "a sequence"

def members (d : Decoder Value) (room : Nat) : Nat → Bool → List (String × Value) → List Token →
    Except Failure (List (String × Value) × List Token)
  | 0, _, _, _ => malformed
  | fuel + 1, first, acc, ts =>
    match name first room ts with
    | .error e => .error e
    | .ok (none, ts) => .ok (acc, ts)
    | .ok (some k, ts) =>
      match colon ts with
      | .error e => .error e
      | .ok ts =>
        match d room ts with
        | .error e => .error e
        | .ok (v, ts) => members d room fuel false (Value.insertMember k v acc) ts

def value : Decoder Value
  | _, [] => unfinished
  | _, .null :: ts => .ok (.null, ts)
  | _, .bool b :: ts => .ok (.bool b, ts)
  | _, .number (.ok n) _ :: ts => .ok (.number n, ts)
  | _, .text (.ok cs) _ :: ts => .ok (.text (String.ofList cs), ts)
  | 0, .mark .openArray :: _ => malformed
  | 0, .mark .openObject :: _ => malformed
  | room + 1, .mark .openArray :: ts =>
    (items (fun _ => value room) room (ts.length + 1) true ts).map fun r => (.array r.1, r.2)
  | room + 1, .mark .openObject :: ts =>
    (members (fun _ => value room) room (ts.length + 1) true [] ts).map fun r =>
      (.object r.1, r.2)
  | _, .number (.error f) _ :: _ => .error (.fault f)
  | _, .text (.error f) _ :: _ => .error (.fault f)
  | _, .broken f :: _ => .error (.fault f)
  | _, .mark _ :: _ => malformed

inductive Frame where
  | array
  | object

inductive Expect where
  | value
  | opened
  | key
  | colon
  | after

/-- The tokens after a value that is stepped over; `stack` holds the brackets open in it. -/
def skip : List Frame → Expect → List Token → Except Failure (List Token)
  | [], .after, ts => .ok ts
  | _, _, [] => unfinished
  | .array :: stack, .opened, .mark .closeArray :: ts => skip stack .after ts
  | .object :: stack, .opened, .mark .closeObject :: ts => skip stack .after ts
  | .array :: stack, .after, .mark .closeArray :: ts => skip stack .after ts
  | .object :: stack, .after, .mark .closeObject :: ts => skip stack .after ts
  | .array :: stack, .after, .mark .comma :: ts => skip (.array :: stack) .value ts
  | .object :: stack, .after, .mark .comma :: ts => skip (.object :: stack) .key ts
  | _, .after, _ => malformed
  | stack, .colon, .mark .colon :: ts => skip stack .value ts
  | _, .colon, _ => malformed
  | stack, .key, .text _ s :: ts =>
    match s with
    | none => skip stack .colon ts
    | some f => .error (.fault f)
  | _, .key, _ => malformed
  | .object :: stack, .opened, .text _ s :: ts =>
    match s with
    | none => skip (.object :: stack) .colon ts
    | some f => .error (.fault f)
  | .object :: _, .opened, _ => malformed
  | stack, _, .null :: ts => skip stack .after ts
  | stack, _, .bool _ :: ts => skip stack .after ts
  | stack, _, .number _ s :: ts =>
    match s with
    | none => skip stack .after ts
    | some f => .error (.fault f)
  | stack, _, .text _ s :: ts =>
    match s with
    | none => skip stack .after ts
    | some f => .error (.fault f)
  | stack, _, .mark .openArray :: ts => skip (.array :: stack) .opened ts
  | stack, _, .mark .openObject :: ts => skip (.object :: stack) .opened ts
  | _, _, .mark _ :: _ => malformed
  | _, _, .broken f :: _ => .error (.fault f)

def oneOf (names : List String) : String :=
  let ticked := names.map fun n => "\x60" ++ n ++ "\x60"
  match ticked with
  | [a, b] => a ++ " or " ++ b
  | _ => "one of " ++ String.intercalate ", " ticked

def variantOf (variants : List (String × α)) (name : String) : Except Failure α :=
  match variants.find? fun v => v.1 == name with
  | some v => .ok v.2
  | none =>
    mismatch ("unknown variant \x60" ++ name ++ "\x60, expected " ++ oneOf (variants.map Prod.fst))

def variant (variants : List (String × α)) : Decoder α
  | _, [] => unfinished
  | _, .text r s :: ts => do
    let (n, ts) ← textAs "variant identifier" 0 (.text r s :: ts)
    return (← variantOf variants n, ts)
  | 0, .mark .openObject :: _ => malformed
  | room + 1, .mark .openObject :: ts => do
    let (n, ts) ← textAs "variant identifier" room ts
    let v ← variantOf variants n
    let ts ← colon ts
    match ts with
    | [] => unfinished
    | .null :: ts =>
      match ts with
      | [] => unfinished
      | .mark .closeObject :: ts => return (v, ts)
      | _ => malformed
    | t :: _ => wrongKind t "unit"
  | _, _ :: _ => malformed

/-- A field of a record under construction: its names, the main one first, whether it has been
read, how it is read, and what stands for it when it is absent. -/
structure Slot (σ : Type) where
  names : List String
  isSet : σ → Bool
  read : Decoder (σ → σ)
  absent : Option (σ → σ)
  absentInArray : Bool := true

def Slot.mainName (s : Slot σ) : String := s.names.headD ""

def positional (recordName : String) (count room : Nat) : List (Slot σ) → Nat → σ → List Token →
    Except Failure (σ × List Token)
  | [], _, acc, ts => (closeArray ts).map fun ts => (acc, ts)
  | s :: ss, i, acc, ts =>
    match item s.read (i == 0) room ts with
    | .error e => .error e
    | .ok (some f, ts) => positional recordName count room ss (i + 1) (f acc) ts
    | .ok (none, ts) =>
      match s.absent, s.absentInArray with
      | some f, true => positional recordName count room ss (i + 1) (f acc) ts
      | _, _ =>
        mismatch ("invalid length " ++ toString i ++ ", expected struct " ++ recordName ++
          " with " ++ toString count ++ " element" ++ (if count = 1 then "" else "s"))

def complete : List (Slot σ) → σ → Except Failure σ
  | [], acc => .ok acc
  | s :: ss, acc =>
    if s.isSet acc then complete ss acc
    else match s.absent with
      | some f => complete ss (f acc)
      | none => mismatch ("missing field \x60" ++ s.mainName ++ "\x60")

def namedFields (slots : List (Slot σ)) (room : Nat) : Nat → Bool → σ → List Token →
    Except Failure (σ × List Token)
  | 0, _, _, _ => malformed
  | fuel + 1, first, acc, ts =>
    match name first room ts with
    | .error e => .error e
    | .ok (none, ts) => .ok (acc, ts)
    | .ok (some k, ts) =>
      match slots.find? fun s => s.names.contains k with
      | none =>
        match (colon ts).bind (skip [] .value) with
        | .error e => .error e
        | .ok ts => namedFields slots room fuel false acc ts
      | some s =>
        if s.isSet acc then mismatch ("duplicate field \x60" ++ s.mainName ++ "\x60")
        else match (colon ts).bind (s.read room) with
          | .error e => .error e
          | .ok (f, ts) => namedFields slots room fuel false (f acc) ts

def record (recordName : String) (slots : List (Slot σ)) (empty : σ) : Decoder σ
  | _, [] => unfinished
  | 0, .mark .openArray :: _ => malformed
  | 0, .mark .openObject :: _ => malformed
  | room + 1, .mark .openArray :: ts =>
    positional recordName slots.length room slots 0 empty ts
  | room + 1, .mark .openObject :: ts =>
    match namedFields slots room (ts.length + 1) true empty ts with
    | .error e => .error e
    | .ok (acc, ts) => (complete slots acc).map fun acc => (acc, ts)
  | _, t :: _ => wrongKind t ("struct " ++ recordName)

def openBrackets : Nat := 127

def run (d : Decoder α) (text : String) : Except Failure α :=
  match d openBrackets (tokens text) with
  | .error e => .error e
  | .ok (a, []) => .ok a
  | .ok (_, _ :: _) => malformed

end Decoder

end PlanningSearch.Json
