import PlanningSearch.Json.Decoder
import PlanningSearch.Record

/-!
Rows as JSON. Written, a row is an object with all its columns in order. Read, a cell takes any
value: a text as it is, null as empty, anything else as its compact text; columns may be missing
and other members are ignored.
-/

namespace PlanningSearch

open Json

namespace Row

variable {t : Table}

def toJson (r : Row t) : Value :=
  .object (t.columns.zip (r.texts.map Value.text))

def cellText : Value → String
  | .null => ""
  | .text s => s
  | v => v.render

def cell : Decoder String := Decoder.value.map cellText

abbrev Draft (t : Table) := Vector (Option String) t.columns.length

def slot (c : Column t) : Decoder.Slot (Draft t) where
  names := [c.name]
  isSet d := (d.get c).isSome
  read := cell.map fun s d => d.setIfInBounds c (some s)
  absent := some fun d => d.setIfInBounds c (some "")

def slots (t : Table) : List (Decoder.Slot (Draft t)) := (List.finRange t.columns.length).map slot

def decoder (t : Table) : Decoder (Row t) :=
  (Decoder.record t.recordName (slots t) (Vector.replicate _ none)).map fun d =>
    ⟨d.map fun s => s.getD ""⟩

end Row

end PlanningSearch
