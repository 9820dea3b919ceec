import PlanningSearch.Proofs.Text.Casing
import PlanningSearch.Settings.Load

/-!
Names of settings. A variable gives a setting its value under exactly those names whose lower-case
form is the common start followed by the name of the setting, because the names of settings are
ASCII texts without points and double underscores. Besides its own name only the paths into a
setting lead to it, and these make it a table.
-/

namespace PlanningSearch

namespace Text.Casing

theorem start_lowerFrom_iff {w : List Char} (hw : ∀ x ∈ w, Steady x ∧ x ≠ 'i')
    (before cs : List Char) :
    w <+: lowerFrom before cs ↔ ∃ u b, cs = u ++ b ∧ u.map asciiLower = w := by
  induction w generalizing before cs with
  | nil => exact iff_of_true List.nil_prefix ⟨[], cs, rfl, rfl⟩
  | cons x w ih =>
    obtain ⟨⟨hx, hi⟩, hrest⟩ := List.forall_mem_cons.mp hw
    cases cs with
    | nil => simp [lowerFrom]
    | cons c cs =>
      rw [cons_prefix_lowerFrom hx (fun z hz => (hrest z hz).1) (fun h => absurd h hi), ih hrest]
      constructor
      · rintro ⟨rfl, u, b, rfl, rfl⟩
        exact ⟨c :: u, b, rfl, rfl⟩
      · rintro ⟨u, b, heq, hu⟩
        obtain ⟨d, u, rfl, hd, rfl⟩ := List.map_eq_cons_iff.mp hu
        obtain ⟨rfl, rfl⟩ := List.cons.inj heq
        exact ⟨hd, u, b, rfl, rfl⟩

theorem lowerFrom_append_of_ascii {u : List Char} (hu : ∀ x ∈ u, x.toNat < 128)
    (before cs : List Char) :
    lowerFrom before (u ++ cs) = u.map asciiLower ++ lowerFrom (u.reverse ++ before) cs := by
  induction u generalizing before with
  | nil => rfl
  | cons c u ih =>
    obtain ⟨hc, hrest⟩ := List.forall_mem_cons.mp hu
    rw [List.cons_append, lowerFrom, lowerAt_of_ascii hc, ih hrest, List.map_cons,
      List.reverse_cons, List.append_assoc, List.singleton_append, List.singleton_append,
      List.cons_append]

theorem lowerAt_ascii_iff {before after rest n : List Char} {c : Char}
    (hn : ∀ x ∈ n, x.toNat < 128) :
    lowerAt before after c ++ rest = n ↔ lowerChar c :: rest = n := by
  have hbeyond : ∀ {y : Char} {ys : List Char}, 128 ≤ y.toNat → y ∈ ys → ys ≠ n := by
    rintro y ys hy hmem rfl
    exact absurd (hn y hmem) (Nat.not_lt.mpr hy)
  unfold lowerAt
  split
  · subst c
    refine iff_of_false (hbeyond (y := if endsWord before after then '\u03C2' else '\u03C3')
      ?_ List.mem_cons_self) (hbeyond (y := '\u03C3') (by decide) ?_)
    · split <;> decide
    · exact List.mem_cons.mpr (.inl (by decide +kernel))
  · split
    · subst c
      refine iff_of_false (hbeyond (y := '\u0307') (by decide) (by simp))
        (hbeyond (y := lowerChar '\u0130') (by decide +kernel) List.mem_cons_self)
    · rfl

/-- An ASCII text is the form of those texts whose characters have its characters as their forms,
wherever the text stands. -/
theorem lowerFrom_eq_iff {n : List Char} (hn : ∀ x ∈ n, x.toNat < 128) (before cs : List Char) :
    lowerFrom before cs = n ↔ cs.map lowerChar = n := by
  induction cs generalizing n before with
  | nil => rfl
  | cons c cs ih =>
    rw [lowerFrom, lowerAt_ascii_iff hn, List.map_cons]
    cases n with
    | nil => simp
    | cons x n =>
      rw [List.cons.injEq, List.cons.injEq, ih (List.forall_mem_cons.mp hn).2]

end Text.Casing

namespace Settings

open Text Text.Casing

theorem dotted_cases (cs : List Char) :
    dotted cs = cs ∨ '.' ∈ dotted cs ∧ ['_', '_'] <:+: cs := by
  fun_induction dotted cs with
  | case1 cs ih => exact .inr ⟨List.mem_cons_self, ['_', '_'].prefix_append cs |>.isInfix⟩
  | case2 c cs _ ih =>
    refine ih.imp (congrArg (c :: ·)) fun h => ?_
    exact ⟨List.mem_cons_of_mem c h.1, List.infix_cons h.2⟩
  | case3 => exact .inl rfl

structure Plain (n : List Char) : Prop where
  nonempty : n ≠ []
  chars : ∀ x ∈ n, isNameChar x = true
  no_double : ¬ ['_', '_'] <:+: n

theorem ascii_of_isNameChar {c : Char} (h : isNameChar c = true) : c.toNat < 128 := by
  simp only [isNameChar, Bool.or_eq_true, Bool.and_eq_true, decide_eq_true_eq, beq_iff_eq] at h
  rcases h with (((⟨-, hle⟩ | ⟨-, hle⟩) | ⟨-, hle⟩) | rfl) | rfl
  · exact Nat.lt_of_le_of_lt (m := 'z'.toNat) hle (by decide)
  · exact Nat.lt_of_le_of_lt (m := 'Z'.toNat) hle (by decide)
  · exact Nat.lt_of_le_of_lt (m := '9'.toNat) hle (by decide)
  · decide
  · decide

variable {n : String} (hn : Plain n.toList)

include hn

theorem Plain.ascii : ∀ x ∈ n.toList, x.toNat < 128 :=
  fun x hx => ascii_of_isNameChar (hn.chars x hx)

theorem map_dotted_iff (cs : List Char) :
    (dotted cs).map lowerChar = n.toList ↔ cs.map lowerChar = n.toList := by
  rcases dotted_cases cs with heq | ⟨hpoint, hdouble⟩
  · rw [heq]
  · refine iff_of_false (fun h => ?_) (fun h => ?_)
    · have hmem : '.' ∈ n.toList := h ▸ List.mem_map.mpr ⟨'.', hpoint, by decide⟩
      exact absurd (hn.chars '.' hmem) (by decide)
    · exact hn.no_double (h ▸ hdouble.map lowerChar)

omit hn in
theorem environmentStart_steady : ∀ x ∈ environmentStart.toList, Steady x ∧ x ≠ 'i' := by
  have hall : environmentStart.toList.all (fun x => x.toNat < 128 ∧ x ≠ 'k' ∧ x ≠ 'i') = true := by
    decide
  intro x hx
  obtain ⟨hascii, hk, hi⟩ := of_decide_eq_true (List.all_eq_true.mp hall x hx)
  exact ⟨⟨hascii, hk⟩, hi⟩

theorem environmentName?_eq_some_iff (name : String) :
    environmentName? name = some n ↔ Text.lower name = environmentStart ++ n := by
  have hlower : Text.lower name = environmentStart ++ n ↔
      lowerChars name.toList = environmentStart.toList ++ n.toList := by
    rw [← String.toList_inj, String.toList_append, Text.lower, String.toList_ofList]
  rw [hlower]
  unfold environmentName?
  by_cases hprefix : environmentStart.toList <+: lowerChars name.toList
  · rw [if_pos (List.isPrefixOf_iff_prefix.mpr hprefix)]
    obtain ⟨u, b, hsplit, hu⟩ := (start_lowerFrom_iff environmentStart_steady [] _).mp hprefix
    have hascii : ∀ x ∈ u, x.toNat < 128 := fun x hx =>
      ascii_of_asciiLower (environmentStart_steady _ (hu ▸ List.mem_map_of_mem hx)).1.1
    have hlength : environmentStart.length = u.length := by
      rw [← String.length_toList, ← hu, List.length_map]
    simp only [lowerChars]
    rw [hsplit, hlength, List.drop_left, lowerFrom_append_of_ascii hascii, hu,
      List.append_cancel_left_eq, Option.some.injEq, ← String.toList_inj, String.toList_ofList,
      lowerFrom_eq_iff hn.ascii, lowerFrom_eq_iff hn.ascii, map_dotted_iff hn]
  · rw [if_neg fun h => hprefix (List.isPrefixOf_iff_prefix.mp h)]
    refine iff_of_false (by simp) fun h => hprefix ?_
    rw [h]
    exact List.prefix_append _ _

def Within (n name : String) : Prop :=
  ∃ rest, rest ≠ [] ∧ name.toList = n.toList ++ rest ∧ isPostfix rest.length rest = true

instance (n name : String) : Decidable (Within n name) :=
  decidable_of_iff
    (n.toList.isPrefixOf name.toList = true ∧
      let rest := name.toList.drop n.toList.length
      rest ≠ [] ∧ isPostfix rest.length rest = true)
    (by
      rw [List.isPrefixOf_iff_prefix]
      constructor
      · rintro ⟨⟨rest, hsplit⟩, hrest⟩
        rw [← hsplit, List.drop_left] at hrest
        exact ⟨rest, hrest.1, hsplit.symm, hrest.2⟩
      · rintro ⟨rest, hne, hsplit, hpostfix⟩
        rw [hsplit, List.drop_left]
        exact ⟨List.prefix_append .., hne, hpostfix⟩)

omit hn in
theorem takeWhile_of_isPostfix {fuel : Nat} {rest : List Char} (h : isPostfix fuel rest = true) :
    rest.takeWhile isNameChar = [] := by
  revert h
  fun_cases isPostfix fuel rest with
  | case1 => exact fun _ => rfl
  | case2 => exact nofun
  | case3 => exact fun _ => rfl
  | case4 => exact fun _ => rfl
  | case5 => exact nofun

theorem takeWhile_append_postfix {fuel : Nat} {rest : List Char}
    (h : isPostfix fuel rest = true) : (n.toList ++ rest).takeWhile isNameChar = n.toList := by
  rw [List.takeWhile_append_of_pos hn.chars, takeWhile_of_isPostfix h, List.append_nil]

theorem dropWhile_append_postfix {fuel : Nat} {rest : List Char}
    (h : isPostfix fuel rest = true) : (n.toList ++ rest).dropWhile isNameChar = rest := by
  have hwhole := rest.takeWhile_append_dropWhile (p := isNameChar)
  rw [takeWhile_of_isPostfix h, List.nil_append] at hwhole
  rw [List.dropWhile_append_of_pos hn.chars, hwhole]

theorem placed_of_own {entry : String × Loose} (h : entry.1 = n) : placed entry = entry := by
  have hdrop := dropWhile_append_postfix hn (show isPostfix 0 [] = true from rfl)
  rw [List.append_nil, ← h] at hdrop
  simp [placed, hdrop]

theorem placed_of_within {entry : String × Loose} (h : Within n entry.1) :
    placed entry = (n, .table) := by
  obtain ⟨rest, hne, hsplit, hpostfix⟩ := h
  have htake := takeWhile_append_postfix hn hpostfix
  have hdrop := dropWhile_append_postfix hn hpostfix
  have hroot : n ≠ "" := fun h => hn.nonempty (h ▸ rfl)
  simp [placed, hsplit, htake, hdrop, hpostfix, hne, hroot]

theorem placed_fst_eq_iff {entry : String × Loose} :
    (placed entry).1 = n ↔ entry.1 = n ∨ Within n entry.1 := by
  refine ⟨fun h => ?_, fun h => h.elim ?_ ?_⟩
  · revert h
    fun_cases placed entry with
    | case1 => exact .inl
    | case2 cs root rest hpath =>
      rintro rfl
      simp only [Bool.or_eq_true, not_or, List.isEmpty_iff, Bool.not_eq_true',
        Bool.not_eq_false] at hpath
      refine .inr ⟨rest, hpath.1.2, ?_, hpath.2⟩
      rw [String.toList_ofList, List.takeWhile_append_dropWhile]
  · intro h
    rw [placed_of_own hn h, h]
  · intro h
    rw [placed_of_within hn h]

omit hn

inductive Setting where
  | bind
  | logLevel
  | masterSearchLimit
  | detailSearchLimit
  | keySearchLimit
  | masterPageSize
  | detailPageSize
  | exportDir
  deriving DecidableEq, Repr

namespace Setting

def name : Setting → String
  | bind => "bind"
  | logLevel => "log_level"
  | masterSearchLimit => "master_search_limit"
  | detailSearchLimit => "detail_search_limit"
  | keySearchLimit => "key_search_limit"
  | masterPageSize => "master_page_size"
  | detailPageSize => "detail_page_size"
  | exportDir => "export_dir"

theorem plain (k : Setting) : Plain k.name.toList := by
  cases k <;> exact ⟨by decide, List.all_eq_true.mp (by decide), by decide⟩

end Setting

theorem mem_names_iff {name : String} : name ∈ names ↔ ∃ k : Setting, name = k.name := by
  constructor
  · intro h
    simp only [names, List.mem_cons, List.not_mem_nil, or_false] at h
    rcases h with h | h | h | h | h | h | h | h
    · exact ⟨.bind, h⟩
    · exact ⟨.logLevel, h⟩
    · exact ⟨.masterSearchLimit, h⟩
    · exact ⟨.detailSearchLimit, h⟩
    · exact ⟨.keySearchLimit, h⟩
    · exact ⟨.masterPageSize, h⟩
    · exact ⟨.detailPageSize, h⟩
    · exact ⟨.exportDir, h⟩
  · rintro ⟨k, rfl⟩
    cases k <;> simp [names, Setting.name]

def Known (name : String) : Prop := ∃ k : Setting, name = k.name ∨ Within k.name name

theorem placed_mem_names_iff {entry : String × Loose} :
    (placed entry).1 ∈ names ↔ Known entry.1 := by
  rw [mem_names_iff]
  exact exists_congr fun k => placed_fst_eq_iff k.plain

instance : DecidablePred Known := fun name =>
  decidable_of_iff ((placed (name, .nothing)).1 ∈ names) placed_mem_names_iff

end Settings

end PlanningSearch
