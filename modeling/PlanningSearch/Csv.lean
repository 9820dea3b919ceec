import PlanningSearch.Record

/-!
Rows as comma-separated text. The first line holds the column names; every field is quoted, a
quote inside a field is written twice, and lines are separated by a carriage return and a line
feed, with none after the last.
-/

namespace PlanningSearch.Csv

def doubled : List Char → List Char
  | [] => []
  | c :: cs => if c = '"' then '"' :: '"' :: doubled cs else c :: doubled cs

def field (s : String) : List Char := '"' :: doubled s.toList ++ ['"']

def record : List String → List Char
  | [] => []
  | [s] => field s
  | s :: ss => field s ++ ',' :: record ss

def lines : List (List String) → List Char
  | [] => []
  | [r] => record r
  | r :: rs => record r ++ '\r' :: '\n' :: lines rs

def ofRows {t : Table} (rows : List (Row t)) : String :=
  String.ofList (lines (t.columns :: rows.map Row.texts))

end PlanningSearch.Csv
