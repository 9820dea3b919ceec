import Mathlib.Data.List.Basic
import PlanningSearch.Csv

/-!
A reader for comma-separated text after RFC 4180, and what it makes of an export. The reader takes
one character at a time. Inside quotes a comma or a line break is text and a doubled quote is one
quote; outside of them a comma ends a field and a carriage return with a line feed ends a record. A
line break at the end of the text opens no further record. An export is read back as the column
names and one record for each row, so rows can be told apart by their exports.
-/

namespace PlanningSearch

namespace Csv

/-- Where a reader stands: before a record, before a further field, in a field without quotes,
inside quotes, behind a quote that was inside quotes, or behind a carriage return. -/
inductive Place where
  | record
  | field
  | plain
  | quoted
  | quote
  | line
  deriving DecidableEq, Repr

structure Reading where
  place : Place
  text : List Char
  fields : List String
  records : List (List String)
  deriving DecidableEq, Repr

namespace Reading

def closed (r : Reading) : List String := r.fields ++ [String.ofList r.text]

def step (r : Reading) (c : Char) : Option Reading :=
  match r.place, c with
  | .quoted, '"' => some { r with place := .quote }
  | .quoted, c => some { r with text := r.text ++ [c] }
  | .quote, '"' => some { r with place := .quoted, text := r.text ++ ['"'] }
  | .record, '"' => some { r with place := .quoted }
  | .field, '"' => some { r with place := .quoted }
  | .line, '\n' => some ⟨.record, [], [], r.records ++ [r.closed]⟩
  | .line, _ => none
  | _, ',' => some ⟨.field, [], r.closed, r.records⟩
  | _, '\r' => some { r with place := .line }
  | .quote, _ => none
  | _, '\n' => none
  | .plain, '"' => none
  | _, c => some { r with place := .plain, text := r.text ++ [c] }

def run (r : Reading) (cs : List Char) : Option Reading := cs.foldlM step r

def finish (r : Reading) : Option (List (List String)) :=
  match r.place with
  | .record => some r.records
  | .field | .plain | .quote => some (r.records ++ [r.closed])
  | .quoted | .line => none

end Reading

def read (s : String) : Option (List (List String)) :=
  (Reading.run ⟨.record, [], [], []⟩ s.toList).bind Reading.finish

example : read "a,\"b \"\"c\"\"\r\n\"\r\n,d\r\n" =
    some [["a", "b \"c\"\r\n"], ["", "d"]] := by decide

example : read "\"a\"b" = none ∧ read "a\nb" = none ∧ read "\"a" = none := by decide

namespace Reading

variable (text : List Char) (fields : List String) (records : List (List String))

theorem run_append (r : Reading) (xs ys : List Char) :
    r.run (xs ++ ys) = (r.run xs).bind fun r' => r'.run ys :=
  List.foldlM_append

theorem step_quoted {c : Char} (hc : c ≠ '"') :
    step ⟨.quoted, text, fields, records⟩ c = some ⟨.quoted, text ++ [c], fields, records⟩ := by
  simp [step]

theorem run_doubled (cs : List Char) :
    run ⟨.quoted, text, fields, records⟩ (doubled cs) =
      some ⟨.quoted, text ++ cs, fields, records⟩ := by
  induction cs generalizing text with
  | nil => simp [doubled, run]
  | cons c cs ih =>
    have hassoc : text ++ c :: cs = (text ++ [c]) ++ cs := by simp
    rw [hassoc, ← ih (text ++ [c]), doubled]
    split
    · rename_i hc
      rw [hc]
      rfl
    · rename_i hc
      rw [run, List.foldlM_cons, step_quoted text fields records hc]
      rfl

theorem run_field {p : Place} (hp : p = .record ∨ p = .field) (s : String) :
    run ⟨p, [], fields, records⟩ (Csv.field s) =
      some ⟨.quote, s.toList, fields, records⟩ := by
  have hopen : run ⟨p, [], fields, records⟩ ['"'] = some ⟨.quoted, [], fields, records⟩ := by
    rcases hp with rfl | rfl <;> rfl
  have hsplit : Csv.field s = ['"'] ++ (doubled s.toList ++ ['"']) := rfl
  rw [hsplit, run_append, hopen, Option.bind_some, run_append, run_doubled]
  rfl

theorem run_record {p : Place} (hp : p = .record ∨ p = .field) {ss : List String} (hs : ss ≠ []) :
    ∃ r, run ⟨p, [], fields, records⟩ (Csv.record ss) = some r ∧ r.place = .quote ∧
      r.closed = fields ++ ss ∧ r.records = records := by
  induction ss generalizing p fields with
  | nil => exact absurd rfl hs
  | cons s ss ih =>
    cases ss with
    | nil =>
      refine ⟨_, run_field fields records hp s, rfl, ?_, rfl⟩
      simp [closed]
    | cons s' ss =>
      obtain ⟨r, hrun, hplace, hclosed, hrecords⟩ := ih (fields ++ [s]) (.inr rfl) nofun
      refine ⟨r, ?_, hplace, by simpa using hclosed, hrecords⟩
      have hcomma : run ⟨.quote, s.toList, fields, records⟩ [','] =
          some ⟨.field, [], fields ++ [s], records⟩ := by
        simp [run, step, closed]
      have hsplit : Csv.record (s :: s' :: ss) =
          Csv.field s ++ ([','] ++ Csv.record (s' :: ss)) := rfl
      rw [hsplit, run_append, run_field fields records hp, Option.bind_some, run_append, hcomma,
        Option.bind_some, hrun]

theorem run_break {r : Reading} (hr : r.place = .quote) :
    r.run ['\r', '\n'] = some ⟨.record, [], [], r.records ++ [r.closed]⟩ := by
  obtain ⟨place, text, fields, records⟩ := r
  subst hr
  rfl

theorem run_lines {rows : List (List String)} (hrows : rows ≠ []) (hne : ∀ r ∈ rows, r ≠ []) :
    ∃ r, run ⟨.record, [], [], records⟩ (lines rows) = some r ∧ r.place = .quote ∧
      r.records ++ [r.closed] = records ++ rows := by
  induction rows generalizing records with
  | nil => exact absurd rfl hrows
  | cons row rows ih =>
    obtain ⟨hrow, hrest⟩ := List.forall_mem_cons.mp hne
    obtain ⟨r, hrun, hplace, hclosed, hrecords⟩ := run_record [] records (.inl rfl) hrow
    rw [List.nil_append] at hclosed
    cases rows with
    | nil => exact ⟨r, hrun, hplace, by rw [hclosed, hrecords]⟩
    | cons row' rows =>
      obtain ⟨r', hrun', hplace', hall⟩ := ih (records ++ [row]) nofun hrest
      refine ⟨r', ?_, hplace', by simpa using hall⟩
      have hsplit : lines (row :: row' :: rows) =
          Csv.record row ++ (['\r', '\n'] ++ lines (row' :: rows)) := rfl
      rw [hsplit, run_append, hrun, Option.bind_some, run_append, run_break hplace, hclosed,
        hrecords, Option.bind_some, hrun']

end Reading

theorem read_lines {rows : List (List String)} (hrows : rows ≠ []) (hne : ∀ r ∈ rows, r ≠ []) :
    read (String.ofList (lines rows)) = some rows := by
  obtain ⟨r, hrun, hplace, hall⟩ := Reading.run_lines [] hrows hne
  rw [read, String.toList_ofList, hrun, Option.bind_some, Reading.finish, hplace, hall,
    List.nil_append]

end Csv

theorem Table.columns_ne_nil (t : Table) : t.columns ≠ [] := by
  cases t <;> decide

theorem Table.column?_name (t : Table) (c : Column t) : t.column? c.name = some c := by
  have hnodup : t.columns.Nodup := by cases t <;> decide
  refine List.findFinIdx?_eq_some_iff.mpr ⟨beq_self_eq_true _, fun j hj heq => ?_⟩
  have hne : t.columns[j] ≠ t.columns[c] := List.pairwise_iff_getElem.mp hnodup j c _ _ hj
  exact hne (beq_iff_eq.mp heq)

namespace Row

variable {t : Table}

theorem valueOrEmpty_name (r : Row t) (c : Column t) : r.valueOrEmpty c.name = r.text c := by
  rw [valueOrEmpty, value?, t.column?_name]
  rfl

theorem texts_eq (r : Row t) : r.texts = t.columns.map r.valueOrEmpty := by
  refine List.ext_getElem (by simp [texts]) fun i hi hi' => ?_
  have hc : i < t.columns.length := by simpa using hi'
  have htext : r.valueOrEmpty t.columns[i] = r.cells[i] := r.valueOrEmpty_name ⟨i, hc⟩
  rw [List.getElem_map, htext]
  exact Vector.getElem_toList hi

theorem texts_ne_nil (r : Row t) : r.texts ≠ [] := by
  rw [texts_eq]
  exact fun h => t.columns_ne_nil (List.map_eq_nil_iff.mp h)

theorem texts_injective {r r' : Row t} (h : r.texts = r'.texts) : r = r' := by
  obtain ⟨cells⟩ := r
  obtain ⟨cells'⟩ := r'
  exact congrArg Row.mk (Vector.toList_inj.mp h)

end Row

namespace Csv

variable {t : Table}

/-- An export is read back as the names of the columns and, for each row, its texts in the order of
the columns, and nothing else. Rows with one export are the same rows. -/
theorem read_ofRows (rows : List (Row t)) :
    read (ofRows rows) = some (t.columns :: rows.map fun r => t.columns.map r.valueOrEmpty) ∧
    ∀ rows' : List (Row t), ofRows rows' = ofRows rows → rows' = rows := by
  have hread (rows : List (Row t)) :
      read (ofRows rows) = some (t.columns :: rows.map Row.texts) := by
    refine read_lines (List.cons_ne_nil _ _) (List.forall_mem_cons.mpr ⟨t.columns_ne_nil, ?_⟩)
    intro texts htexts
    obtain ⟨r, -, rfl⟩ := List.mem_map.mp htexts
    exact r.texts_ne_nil
  have htexts : (Row.texts : Row t → List String) = fun r => t.columns.map r.valueOrEmpty :=
    funext Row.texts_eq
  refine ⟨htexts ▸ hread rows, fun rows' h => ?_⟩
  have hrecords : t.columns :: rows'.map Row.texts = t.columns :: rows.map Row.texts := by
    rw [← Option.some_inj, ← hread rows', ← hread rows, h]
  exact List.map_injective_iff.mpr (fun _ _ => Row.texts_injective) (List.cons.inj hrecords).2

example :
    let row : Row .channel := ⟨#v["C,1", "\"\r\n\"", "\r"]⟩
    read (ofRows [row]) =
      some [["ChannelID", "ChannelDescr", "Level"], ["C,1", "\"\r\n\"", "\r"]] := by
  decide

end Csv

end PlanningSearch
