import Mathlib
import PlanningSearch.Proofs.Json.Reads

/-!
Records survive being written. A row, a search result or a criterion is read back from its JSON
text as it was, whatever its texts hold. So reading a row, which takes any value for the text of a
column, brings it into a normal form: written and read again, it stays the same.
-/

namespace PlanningSearch

open Json

section Present

variable {ms : List (String × Option Value)}

def present (ms : List (String × Option Value)) : List (String × Value) :=
  ms.filterMap fun m => m.2.map fun v => (m.1, v)

theorem mem_present {name : String} {v : Value} : (name, v) ∈ present ms ↔ (name, some v) ∈ ms := by
  constructor
  · intro h
    obtain ⟨⟨name', v?⟩, hmem, heq⟩ := List.mem_filterMap.mp h
    obtain ⟨v', rfl, heq⟩ := Option.map_eq_some_iff.mp heq
    cases heq
    exact hmem
  · exact fun h => List.mem_filterMap.mpr ⟨_, h, rfl⟩

theorem present_names_sublist : ((present ms).map Prod.fst).Sublist (ms.map Prod.fst) := by
  induction ms with
  | nil => exact .slnil
  | cons m ms ih =>
    obtain ⟨name, v | v⟩ := m
    · exact ih.cons name
    · exact ih.cons_cons name

theorem whole_presentMembers (h : ∀ m ∈ ms, ∀ v ∈ m.2, v.Whole) : (presentMembers ms).Whole :=
  .object fun _ hm => h _ (mem_present.mp hm) _ rfl

end Present

namespace Row

open Decoder

variable {t : Table} (r : Row t)

def drafted (cs : List (Column t)) : Draft t :=
  Vector.ofFn fun c => if c ∈ cs then some (r.text c) else none

@[simp]
theorem get_drafted (cs : List (Column t)) (c : Column t) :
    (r.drafted cs).get c = if c ∈ cs then some (r.text c) else none :=
  Vector.getElem_ofFn c.isLt

def member (c : Column t) : String × Value := (c.name, .text (r.text c))

theorem toJson_eq : r.toJson = .object ((List.finRange _).map r.member) := by
  refine congrArg Value.object (List.ext_getElem ?_ fun i hi hi' => ?_)
  · simp [texts]
  · simp [member, Column.name, text, texts]

theorem cell_reads (room : Nat) (s : String) : cell.Reads room (.text s) s := by
  intro rest
  simp [Value.tokens, cell, Decoder.map, Decoder.value, Except.map, cellText]

theorem find?_slots (c : Column t) :
    ((slots t).find? fun s => s.names.contains c.name) = some (slot c) := by
  -- no table has two columns of one name
  have hfind : ((List.finRange _).find? fun c' : Column t => [c'.name].contains c.name) = some c := by
    revert c
    cases t <;> decide
  rw [slots, List.find?_map]
  exact congrArg (Option.map slot) hfind

theorem drafted_concat (cs : List (Column t)) (c : Column t) :
    (r.drafted cs).setIfInBounds c (some (r.text c)) = r.drafted (cs ++ [c]) := by
  refine Vector.ext fun i hi => ?_
  simp only [drafted, Vector.getElem_setIfInBounds, Vector.getElem_ofFn, List.mem_append,
    List.mem_singleton]
  by_cases hc : c.val = i
  · subst hc
    simp
  · have hne : (⟨i, hi⟩ : Column t) ≠ c := fun heq => hc (congrArg Fin.val heq).symm
    simp [hc, hne]

theorem fills (room : Nat) {before after : List (Column t)}
    (h : before ++ after = List.finRange _) :
    Fills (slots t) room (r.drafted before) (after.map r.member) (r.drafted (List.finRange _)) := by
  -- on the columns still to come; those before them are in the draft
  induction after generalizing before with
  | nil =>
    rw [List.append_nil] at h
    rw [h]
    exact .nil _
  | cons c after ih =>
    have hnodup : (before ++ c :: after).Nodup := h ▸ List.nodup_finRange _
    have hfree : c ∉ before := fun hc =>
      (List.nodup_append.mp hnodup).2.2 c hc c List.mem_cons_self rfl
    have hread : (slot c).read.Reads room (.text (r.text c))
        fun d => d.setIfInBounds c (some (r.text c)) :=
      (cell_reads room (r.text c)).map fun s (d : Draft t) => d.setIfInBounds c (some s)
    refine .cons (find?_slots c) ?_ hread ?_
    · simp [slot, hfree]
    · rw [r.drafted_concat]
      exact ih (by rw [List.append_assoc]; exact h)

theorem complete_drafted :
    complete (slots t) (r.drafted (List.finRange _)) = .ok (r.drafted (List.finRange _)) := by
  refine complete_of_isSet fun s hs => ?_
  obtain ⟨c, hc, rfl⟩ := List.mem_map.mp hs
  simp [slot]

theorem decoder_reads (room : Nat) : (decoder t).Reads (room + 1) r.toJson r := by
  have hempty : Vector.replicate _ none = r.drafted [] := by
    refine Vector.ext fun i hi => ?_
    simp [drafted]
  have hcells : (r.drafted (List.finRange _)).map (fun s => s.getD "") = r.cells := by
    refine Vector.ext fun i hi => ?_
    simp [drafted, text]
  have hread := (r.fills room (List.nil_append _)).reads_record r.complete_drafted t.recordName
  rw [toJson_eq, decoder, hempty]
  have hrow := hread.map fun d => (⟨d.map fun s => s.getD ""⟩ : Row t)
  rw [hcells] at hrow
  exact hrow

theorem whole_toJson : r.toJson.Whole := by
  rw [toJson_eq]
  refine .object fun m hm => ?_
  obtain ⟨c, -, rfl⟩ := List.mem_map.mp hm
  exact .text _

end Row

namespace Operator

open Decoder

theorem decoder_reads (room : Nat) (op : Operator) : decoder.Reads room op.toJson op :=
  reads_variant (by cases op <;> rfl) room

end Operator

namespace Domain

open Decoder

theorem decoder_reads (room : Nat) (d : Domain) : decoder.Reads room d.toJson d :=
  reads_variant (by cases d <;> rfl) room

end Domain

namespace Criterion

open Decoder

theorem decoder_reads (room : Nat) (c : Criterion) : decoder.Reads (room + 1) c.toJson c := by
  obtain ⟨field, value, operator⟩ := c
  have hfield := (reads_text room field).map fun s (d : Draft) => { d with field := some s }
  have hvalue := (reads_text room value).map fun s (d : Draft) => { d with value := some s }
  cases operator with
  | none =>
    -- the member is left out when it is written, and its default stands for it when it is read
    have hfills : Fills slots room {} [("field", .text field), ("value", .text value)]
        ⟨some field, some value, none⟩ :=
      .cons rfl rfl hfield (.cons rfl rfl hvalue (.nil _))
    exact (hfills.reads_record rfl "Criterion").map fun d =>
      (⟨d.field.getD "", d.value.getD "", d.operator.getD none⟩ : Criterion)
  | some op =>
    have hop : (Decoder.optional Operator.decoder).Reads room op.toJson (some op) :=
      (Operator.decoder_reads room op).optional
    have hoperator := hop.map fun o (d : Draft) => { d with operator := some o }
    have hfills : Fills slots room {}
        [("field", .text field), ("value", .text value), ("operator", op.toJson)]
        ⟨some field, some value, some (some op)⟩ :=
      .cons rfl rfl hfield (.cons rfl rfl hvalue (.cons rfl rfl hoperator (.nil _)))
    exact (hfills.reads_record rfl "Criterion").map fun d =>
      (⟨d.field.getD "", d.value.getD "", d.operator.getD none⟩ : Criterion)

theorem whole_toJson (c : Criterion) : c.toJson.Whole := by
  have htexts : ∀ m ∈ [("field", some (Value.text c.field)), ("value", some (.text c.value)),
      ("operator", c.operator.map Operator.toJson)], ∀ v ∈ m.2, ∃ s, v = .text s := by
    simp [Operator.toJson]
  refine whole_presentMembers fun m hm v hv => ?_
  obtain ⟨s, rfl⟩ := htexts m hm v hv
  exact .text s

end Criterion

namespace SearchResult

open Decoder

theorem decoder_reads (room : Nat) (r : SearchResult) : decoder.Reads (room + 3) r.toJson r := by
  obtain ⟨query, count, keys⟩ := r
  have hquery := (reads_text (room + 2) query).map fun s (d : Draft) => { d with query := some s }
  have hcount := (reads_word "u64" (room + 2) count).map fun n (d : Draft) =>
    { d with count := some n }
  have hlist : (Decoder.list (Row.decoder .key)).Reads (room + 2) (.array (keys.map Row.toJson))
      keys := reads_list fun k _ => k.decoder_reads room
  have hkeys := hlist.map fun ks (d : Draft) => { d with keys := some ks }
  have hfills : Fills slots (room + 2) {}
      [("query", .text query), ("count", .nat count.toNat),
        ("keys", .array (keys.map Row.toJson))]
      ⟨some query, some count, some keys⟩ :=
    .cons rfl rfl hquery (.cons rfl rfl hcount (.cons rfl rfl hkeys (.nil _)))
  exact (hfills.reads_record rfl "SearchResult").map fun d =>
    (⟨d.query.getD "", d.count.getD 0, d.keys.getD []⟩ : SearchResult)

theorem whole_toJson (r : SearchResult) : r.toJson.Whole := by
  have hcount : r.count.toNat ≤ Token.maxWord := Nat.le_sub_one_of_lt r.count.toNat_lt
  have hkeys : ∀ v ∈ r.keys.map Row.toJson, v.Whole := fun v hv => by
    obtain ⟨k, -, rfl⟩ := List.mem_map.mp hv
    exact k.whole_toJson
  refine .object fun m hm => ?_
  simp only [List.mem_cons, List.not_mem_nil, or_false] at hm
  rcases hm with rfl | rfl | rfl
  · exact .text _
  · exact .nat hcount
  · exact .array hkeys

end SearchResult

/-- Rows, search results and criteria are read back from their texts as they were. Reading a row
from any text is a normalisation: what was made of it is stable from then on. -/
theorem records_decode_written :
    (∀ (t : Table) (r : Row t), (Row.decoder t).run r.toJson.render = .ok r) ∧
    (∀ r : SearchResult, SearchResult.decoder.run r.toJson.render = .ok r) ∧
    (∀ c : Criterion, Criterion.decoder.run c.toJson.render = .ok c) ∧
    ∀ (t : Table) (text : String) (r : Row t), (Row.decoder t).run text = .ok r →
      (Row.decoder t).run r.toJson.render = .ok r := by
  have hrow (t : Table) (r : Row t) : (Row.decoder t).run r.toJson.render = .ok r :=
    (r.decoder_reads 126).run_render r.whole_toJson
  have hresult (r : SearchResult) : SearchResult.decoder.run r.toJson.render = .ok r :=
    (r.decoder_reads 124).run_render r.whole_toJson
  have hcriterion (c : Criterion) : Criterion.decoder.run c.toJson.render = .ok c :=
    (c.decoder_reads 126).run_render c.whole_toJson
  exact ⟨hrow, hresult, hcriterion, fun t _ r _ => hrow t r⟩

theorem records_decode_written_of_lenient_key :
    (Row.decoder .key).run
        "\x7b\"ProductID\":null,\"ChannelID\":15,\"LocationID\":[1,\"\"]\x7d" =
      .ok (Key.ofParts "" "15" "[1,\"\"]") ∧
    (Row.decoder .key).run (Key.ofParts "" "15" "[1,\"\"]").toJson.render =
      .ok (Key.ofParts "" "15" "[1,\"\"]") := by
  have hread : (Row.decoder .key).run
      "\x7b\"ProductID\":null,\"ChannelID\":15,\"LocationID\":[1,\"\"]\x7d" =
        .ok (Key.ofParts "" "15" "[1,\"\"]") := by
    cbv
  exact ⟨hread, records_decode_written.2.2.2 .key _ _ hread⟩

end PlanningSearch
