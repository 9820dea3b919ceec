import PlanningSearch.Record.Codec
import PlanningSearch.Bucket
import PlanningSearch.Criterion
import PlanningSearch.Search

/-!
JSON forms of criteria, domains, buckets, search results and saved searches. Members are written in
a fixed order, and those that may be absent are left out when they are.
-/

namespace PlanningSearch

open Json

namespace Json.Decoder.Slot

def of (names : List String) (get : σ → Option α) (set : σ → α → σ) (d : Decoder α)
    (default : Option α) : Slot σ where
  names
  isSet s := (get s).isSome
  read := d.map fun a s => set s a
  absent := default.map fun a s => set s a

end Json.Decoder.Slot

def presentMembers (members : List (String × Option Value)) : Value :=
  .object (members.filterMap fun m => m.2.map fun v => (m.1, v))

namespace Operator

def names : List (String × Operator) := [("AND", .and), ("OR", .or)]

def decoder : Decoder Operator := Decoder.variant names

def toJson (op : Operator) : Value := .text op.text

end Operator

namespace Domain

def decoder : Decoder Domain := Decoder.variant (all.map fun d => (d.name, d))

def toJson (d : Domain) : Value := .text d.name

end Domain

namespace Bucket

def decoder : Decoder Bucket :=
  Decoder.variant ([daily, weekly, monthly].map fun b => (b.slug, b))

def toJson (b : Bucket) : Value := .text b.slug

end Bucket

namespace Criterion

structure Draft where
  field : Option String := none
  value : Option String := none
  operator : Option (Option Operator) := none

def slots : List (Decoder.Slot Draft) :=
  [.of ["field", "key"] Draft.field (fun d s => { d with field := some s }) Decoder.text none,
   .of ["value"] Draft.value (fun d s => { d with value := some s }) Decoder.text none,
   .of ["operator", "op"] Draft.operator (fun d o => { d with operator := some o })
     (Decoder.optional Operator.decoder) (some none)]

def decoder : Decoder Criterion :=
  (Decoder.record "Criterion" slots {}).map fun d =>
    ⟨d.field.getD "", d.value.getD "", d.operator.getD none⟩

def toJson (c : Criterion) : Value :=
  presentMembers [("field", some (.text c.field)), ("value", some (.text c.value)),
    ("operator", c.operator.map Operator.toJson)]

end Criterion

namespace SearchResult

structure Draft where
  query : Option String := none
  count : Option UInt64 := none
  keys : Option (List Key) := none

def slots : List (Decoder.Slot Draft) :=
  [.of ["query"] Draft.query (fun d s => { d with query := some s }) Decoder.text (some ""),
   .of ["count"] Draft.count (fun d n => { d with count := some n }) (Decoder.word "u64") (some 0),
   .of ["keys"] Draft.keys (fun d ks => { d with keys := some ks })
     (Decoder.list (Row.decoder .key)) (some [])]

def decoder : Decoder SearchResult :=
  (Decoder.record "SearchResult" slots {}).map fun d =>
    ⟨d.query.getD "", d.count.getD 0, d.keys.getD []⟩

def toJson (r : SearchResult) : Value :=
  .object [("query", .text r.query), ("count", .nat r.count.toNat),
    ("keys", .array (r.keys.map Row.toJson))]

end SearchResult

namespace Instant

def decoder : Decoder Instant := fun room ts =>
  match Decoder.textAs "an RFC 3339 formatted date and time string" room ts with
  | .error e => .error e
  | .ok (s, ts) =>
    match parse s with
    | .ok i => .ok (i, ts)
    | .error f => .error (.mismatch f.message)

def toJson (i : Instant) : Value := .text i.render

end Instant

namespace SavedSearch

structure Draft where
  id : Option (Option Int) := none
  name : Option String := none
  query : Option String := none
  createdAt : Option (Option Instant) := none

def slots : List (Decoder.Slot Draft) :=
  [.of ["id"] Draft.id (fun d i => { d with id := some i }) (Decoder.optional Decoder.int64)
     (some none),
   .of ["name"] Draft.name (fun d s => { d with name := some s }) Decoder.text none,
   .of ["query"] Draft.query (fun d s => { d with query := some s }) Decoder.text none,
   .of ["created_at"] Draft.createdAt (fun d i => { d with createdAt := some i })
     (Decoder.optional Instant.decoder) (some none)]

def decoder : Decoder SavedSearch :=
  (Decoder.record "SavedSearch" slots {}).map fun d =>
    ⟨d.id.getD none, d.name.getD "", d.query.getD "", d.createdAt.getD none⟩

def toJson (s : SavedSearch) : Value :=
  presentMembers [("id", s.id.map fun i => .number (.int i)), ("name", some (.text s.name)),
    ("query", some (.text s.query)), ("created_at", s.createdAt.map Instant.toJson)]

end SavedSearch

end PlanningSearch
