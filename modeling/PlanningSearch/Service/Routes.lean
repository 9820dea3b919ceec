import PlanningSearch.Service
import PlanningSearch.Web.MediaType
import PlanningSearch.Web.Message
import PlanningSearch.Web.Target

/-!
The routes of the service. A path that is no route is not found, and a route refuses methods other
than its own. Any origin may ask; a request with the method OPTIONS is answered with what is allowed
and reaches no route. A posted body must be declared as JSON and start with a JSON value of the
right shape; what follows that value is not read.
-/

namespace PlanningSearch.Service

open Web Json

inductive Route where
  | compile
  | applicable
  | fields (part : String)
  deriving DecidableEq, Repr

namespace Route

def fieldsStart : String := "/v1/fields/"

def ofPath? (path : String) : Option Route :=
  if path == "/v1/compile" then some compile
  else if path == "/v1/applicable" then some applicable
  else if path.startsWith fieldsStart then
    let part := path.toList.drop fieldsStart.length
    if part.isEmpty || part.contains '/' then none else some (fields (String.ofList part))
  else none

def methods : Route → List String
  | compile | applicable => ["POST"]
  | fields _ => ["GET", "HEAD"]

end Route

def jsonType : String := "application/json"

def anyOrigin : String × String := ("access-control-allow-origin", "*")

def allowed (r : Route) : String × String := ("allow", String.intercalate "," r.methods)

def bare (status : Nat) : HttpResponse := ⟨status, [anyOrigin], ""⟩

def unreadable (status : Nat) : HttpResponse :=
  ⟨status, [("content-type", "text/plain; charset=utf-8"), anyOrigin], ""⟩

def respond (status : Nat) (v : Value) : HttpResponse :=
  ⟨status, [("content-type", jsonType), anyOrigin], v.render⟩

def refuse (e : SearchError) : HttpResponse := respond 400 (CompileResponse.refused e).toJson

def declaresJson (r : HttpRequest) : Bool :=
  ((header? r.headers "content-type").bind MediaType.parse?).any MediaType.isJson

def withBody (r : HttpRequest) (d : Decoder α) (answer : α → HttpResponse) : HttpResponse :=
  if !declaresJson r then unreadable 415
  else match d Decoder.openBrackets (tokens r.body) with
    | .ok (a, _) => answer a
    | .error (.mismatch _) => unreadable 422
    | .error (.fault _) => unreadable 400

def answerCompile (r : CompileRequest) : HttpResponse :=
  match r.answer with
  | .ok response => respond 200 response.toJson
  | .error e => refuse e

def answerApplicable (r : ApplicableRequest) : HttpResponse := respond 200 r.answer.toJson

def answerFields (part : String) : HttpResponse :=
  match unescape? part with
  | none => unreadable 400
  | some name =>
    match Domain.parse name with
    | .ok d => respond 200 d.fieldsJson
    | .error e => refuse e

def Route.answer (route : Route) (r : HttpRequest) : HttpResponse :=
  match route with
  | .compile => withBody r CompileRequest.decoder answerCompile
  | .applicable => withBody r ApplicableRequest.decoder answerApplicable
  | .fields part => answerFields part

def preflight (route : Option Route) : HttpResponse :=
  ⟨200, (route.map allowed).toList ++ [anyOrigin, ("access-control-allow-methods", "GET,POST"),
    ("access-control-allow-headers", "*")], ""⟩

def answer (r : HttpRequest) : HttpResponse :=
  let route := Route.ofPath? (pathOf r.target)
  if r.method == "OPTIONS" then preflight route
  else match route with
    | none => bare 404
    | some route =>
      if !route.methods.contains r.method then
        { bare 405 with headers := [allowed route, anyOrigin] }
      else
        let response := route.answer r
        if r.method == "HEAD" then { response with body := "" } else response

end PlanningSearch.Service
