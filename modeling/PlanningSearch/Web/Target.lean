import PlanningSearch.Json.Token

/-!
Request targets. The path of a target ends at its query or fragment, and an absolute target names
its host first. In a path, `%` followed by two hexadecimal digits stands for a byte; any other `%`
stands for itself.
-/

namespace PlanningSearch.Web

def pathOf (target : String) : String :=
  let cs := target.toList.takeWhile fun c => c != '?' && c != '#'
  if cs.head? == some '/' then String.ofList cs
  else match cs.dropWhile (· != ':') with
    | ':' :: '/' :: '/' :: rest => String.ofList (rest.dropWhile (· != '/'))
    | _ => ""

def unescapeBytes : List Char → List UInt8
  | '%' :: a :: b :: cs =>
    match Json.Token.hexDigit? a, Json.Token.hexDigit? b with
    | some x, some y => UInt8.ofNat (x * 16 + y) :: unescapeBytes cs
    | _, _ => '%'.toUInt8 :: unescapeBytes (a :: b :: cs)
  | c :: cs => String.utf8EncodeChar c ++ unescapeBytes cs
  | [] => []

def unescape? (part : String) : Option String :=
  String.fromUTF8? ⟨(unescapeBytes part.toList).toArray⟩

end PlanningSearch.Web
