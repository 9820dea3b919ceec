import PlanningSearch.Text.Blank
import PlanningSearch.Web.Message

/-!
Requests and responses as they travel: a first line, header lines, an empty line, and a body whose
length in bytes a header gives.
-/

namespace PlanningSearch.Web

def startLine? (line : String) : Option (String × String) :=
  match (Text.trim line).splitOn " " with
  | [method, target, _] => some (method, target)
  | _ => none

def headerLine? (line : String) : Option (String × String) :=
  let cs := line.toList
  match cs.dropWhile (· != ':') with
  | _ :: value =>
    some (String.ofList (cs.takeWhile (· != ':')), String.ofList (Text.trimChars value))
  | [] => none

def bodyLength (headers : List (String × String)) : Nat :=
  ((header? headers "content-length").bind String.toNat?).getD 0

def reason : Nat → String
  | 200 => "OK"
  | 400 => "Bad Request"
  | 404 => "Not Found"
  | 405 => "Method Not Allowed"
  | 415 => "Unsupported Media Type"
  | 422 => "Unprocessable Content"
  | _ => ""

def endOfLine : String := "\r\n"

def HttpResponse.render (r : HttpResponse) : String :=
  let start := "HTTP/1.1 " ++ toString r.status ++ " " ++ reason r.status
  let headers := r.headers ++ [("content-length", toString r.body.utf8ByteSize)]
  let lines := start :: headers.map fun h => h.1 ++ ": " ++ h.2
  String.join (lines.map (· ++ endOfLine)) ++ endOfLine ++ r.body

end PlanningSearch.Web
