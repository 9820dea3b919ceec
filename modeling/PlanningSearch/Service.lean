import PlanningSearch.Codec
import PlanningSearch.Query

/-!
The questions that the service answers, with the JSON forms of questions and answers: compile
criteria to a query, tell whether a query applies to a domain, and list the fields of a domain.
-/

namespace PlanningSearch

open Json

structure CompileRequest where
  domain : Option Domain
  criteria : List Criterion
  deriving DecidableEq, Repr

structure CompileResponse where
  status : String
  query : Option String
  error : Option String
  deriving DecidableEq, Repr

namespace CompileRequest

structure Draft where
  domain : Option (Option Domain) := none
  criteria : Option (List Criterion) := none

def slots : List (Decoder.Slot Draft) :=
  [.of ["domain"] Draft.domain (fun d x => { d with domain := some x })
     (Decoder.optional Domain.decoder) (some none),
   .of ["criteria"] Draft.criteria (fun d cs => { d with criteria := some cs })
     (Decoder.list Criterion.decoder) none]

def decoder : Decoder CompileRequest :=
  (Decoder.record "CompileRequest" slots {}).map fun d =>
    ⟨d.domain.getD none, d.criteria.getD []⟩

end CompileRequest

namespace CompileResponse

def done (query : Option String) : CompileResponse := ⟨"ok", query, none⟩

def refused (e : SearchError) : CompileResponse := ⟨"error", none, some e.userMessage⟩

structure Draft where
  status : Option String := none
  query : Option (Option String) := none
  error : Option (Option String) := none

def slots : List (Decoder.Slot Draft) :=
  [.of ["status"] Draft.status (fun d s => { d with status := some s }) Decoder.text none,
   { Decoder.Slot.of ["query"] Draft.query (fun d s => { d with query := some s })
       (Decoder.optional Decoder.text) (some none) with absentInArray := false },
   { Decoder.Slot.of ["error"] Draft.error (fun d s => { d with error := some s })
       (Decoder.optional Decoder.text) (some none) with absentInArray := false }]

def decoder : Decoder CompileResponse :=
  (Decoder.record "CompileResponse" slots {}).map fun d =>
    ⟨d.status.getD "", d.query.getD none, d.error.getD none⟩

def toJson (r : CompileResponse) : Value :=
  presentMembers [("status", some (.text r.status)), ("query", r.query.map .text),
    ("error", r.error.map .text)]

end CompileResponse

def CompileRequest.answer (r : CompileRequest) : Except SearchError CompileResponse :=
  (Query.compileChecked r.domain r.criteria).map CompileResponse.done

structure ApplicableRequest where
  domain : Domain
  query : String
  deriving DecidableEq, Repr

structure ApplicableResponse where
  applicable : Bool
  message : Option String
  deriving DecidableEq, Repr

namespace ApplicableRequest

structure Draft where
  domain : Option Domain := none
  query : Option String := none

def slots : List (Decoder.Slot Draft) :=
  [.of ["domain"] Draft.domain (fun d x => { d with domain := some x }) Domain.decoder none,
   .of ["query"] Draft.query (fun d s => { d with query := some s }) Decoder.text none]

def decoder : Decoder ApplicableRequest :=
  (Decoder.record "ApplicableRequest" slots {}).map fun d =>
    ⟨d.domain.getD .product, d.query.getD ""⟩

end ApplicableRequest

namespace ApplicableResponse

structure Draft where
  applicable : Option Bool := none
  message : Option (Option String) := none

def slots : List (Decoder.Slot Draft) :=
  [.of ["applicable"] Draft.applicable (fun d b => { d with applicable := some b }) Decoder.bool
     none,
   { Decoder.Slot.of ["message"] Draft.message (fun d s => { d with message := some s })
       (Decoder.optional Decoder.text) (some none) with absentInArray := false }]

def decoder : Decoder ApplicableResponse :=
  (Decoder.record "ApplicableResponse" slots {}).map fun d =>
    ⟨d.applicable.getD false, d.message.getD none⟩

def toJson (r : ApplicableResponse) : Value :=
  presentMembers [("applicable", some (.bool r.applicable)), ("message", r.message.map .text)]

end ApplicableResponse

def ApplicableRequest.answer (r : ApplicableRequest) : ApplicableResponse :=
  let applies := r.domain.appliesTo r.query
  ⟨applies, if applies then none else some (SearchError.inapplicable r.domain).userMessage⟩

def Field.toJson (f : Field) : Value :=
  .object [("ui", .text f.ui), ("column", .text f.column), ("token", .text f.token),
    ("label", .text f.label)]

def Domain.fieldsJson (d : Domain) : Value := .array (d.fields.map Field.toJson)

end PlanningSearch
