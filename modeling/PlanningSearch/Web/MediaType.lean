import PlanningSearch.Text.Casing

/-!
Media types `type/subtype+suffix; name=value`. Names consist of token characters; a parameter value
is a token or a quoted text, and blanks may stand before a parameter and after a quoted value.
-/

namespace PlanningSearch.Web

structure MediaType where
  type : String
  subtype : String
  suffix : Option String
  deriving DecidableEq, Repr

namespace MediaType

def isTokenChar (c : Char) : Bool :=
  ('a' ≤ c && c ≤ 'z') || ('A' ≤ c && c ≤ 'Z') || ('0' ≤ c && c ≤ '9') ||
    "!#$%&'*+-.^_\x60|~".toList.contains c

def isQuotable (c : Char) : Bool := ' ' ≤ c && c ≤ '~'

/-- The rest after the closing quote. The first character of a quoted text may be a quote. -/
def afterQuoted : List Char → Option (List Char)
  | [] => none
  | c :: cs =>
    let content := cs.takeWhile (· != '"')
    match cs.dropWhile (· != '"') with
    | [] => none
    | _ :: rest => if isQuotable c && content.all isQuotable then some rest else none

def afterValue : List Char → Option (List Char)
  | '"' :: cs =>
    match (afterQuoted cs).map fun rest => rest.dropWhile (· == ' ') with
    | some [] => some []
    | some (';' :: rest) => some rest
    | _ => none
  | cs =>
    match cs.dropWhile isTokenChar with
    | [] => some []
    | ';' :: rest => if (cs.takeWhile isTokenChar).isEmpty then none else some rest
    | _ => none

def areParameters : Nat → List Char → Bool
  | _, [] => true
  | 0, _ => false
  | fuel + 1, cs =>
    let cs := cs.dropWhile (· == ' ')
    match cs.dropWhile isTokenChar with
    | '=' :: rest =>
      !(cs.takeWhile isTokenChar).isEmpty &&
        match afterValue rest with
        | some rest => areParameters fuel rest
        | none => false
    | _ => false

def splitSuffix (subtype : List Char) : List Char × Option (List Char) :=
  let suffix := (subtype.reverse.takeWhile (· != '+')).reverse
  let front := subtype.take (subtype.length - suffix.length - 1)
  if front.isEmpty then (subtype, none) else (front, some suffix)

def parse? (text : String) : Option MediaType :=
  let cs := text.toList
  let type := cs.takeWhile isTokenChar
  match cs.dropWhile isTokenChar with
  | '/' :: rest =>
    let subtype := rest.takeWhile isTokenChar
    let sound := match rest.dropWhile isTokenChar with
      | [] => true
      | ';' :: params => !subtype.isEmpty && areParameters params.length params
      | _ => false
    if type.isEmpty || !sound then none
    else
      let parts := splitSuffix subtype
      some ⟨String.ofList type, String.ofList parts.1, parts.2.map String.ofList⟩
  | _ => none

/-- Whether a body of this type is JSON: `application/json`, or any suffix `+json`. -/
def isJson (m : MediaType) : Bool :=
  Text.sameUpToCase m.type "application" &&
    (Text.sameUpToCase m.subtype "json" || m.suffix.any fun s => Text.sameUpToCase s "json")

end MediaType

end PlanningSearch.Web
