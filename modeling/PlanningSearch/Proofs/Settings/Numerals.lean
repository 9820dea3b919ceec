import Mathlib.Data.List.TakeWhile
import PlanningSearch.Proofs.Number.Shortest
import PlanningSearch.Proofs.Text.Casing
import PlanningSearch.Settings.Loose

/-!
Numbers as texts. A text reads as a number exactly when it is a numeral: an optional sign before
digits with an optional point and an optional exponent, or before the name of an infinity or of NaN.
The text of a number reads as that number again.
-/

namespace PlanningSearch.Settings.Real

open Binary64

def Digits (cs : List Char) : Prop := ∀ c ∈ cs, isDigit c = true

inductive Sign : List Char → Prop where
  | none : Sign []
  | minus : Sign ['-']
  | plus : Sign ['+']

inductive Power : List Char → Prop where
  | none : Power []
  | letter {e : Char} (he : e = 'e' ∨ e = 'E') {sign digits : List Char} (hsign : Sign sign)
    (hne : digits ≠ []) (hdigits : Digits digits) : Power (e :: (sign ++ digits))

inductive Unsigned : List Char → Prop where
  | whole {whole power : List Char} (hwhole : Digits whole) (hne : whole ≠ [])
    (hpower : Power power) : Unsigned (whole ++ power)
  | pointed {whole fraction power : List Char} (hwhole : Digits whole)
    (hfraction : Digits fraction) (hne : whole ≠ [] ∨ fraction ≠ []) (hpower : Power power) :
    Unsigned (whole ++ '.' :: (fraction ++ power))
  | name {cs : List Char}
    (h : String.ofList (cs.map Text.asciiLower) ∈ ["inf", "infinity", "nan"]) : Unsigned cs

/-- The texts of numbers. -/
def Numeral (s : String) : Prop :=
  ∃ sign cs, Sign sign ∧ Unsigned cs ∧ s.toList = sign ++ cs

def unsigned : List Char → List Char
  | '-' :: cs => cs
  | '+' :: cs => cs
  | cs => cs

def hasMinus (cs : List Char) : Bool := cs.head? == some '-'

def Signless (cs : List Char) : Prop := cs.head? ≠ some '-' ∧ cs.head? ≠ some '+'

theorem unsigned_cases (cs : List Char) :
    (cs = '-' :: unsigned cs ∨ cs = '+' :: unsigned cs) ∨ Signless cs ∧ unsigned cs = cs := by
  fun_cases unsigned cs with
  | case1 cs => exact .inl (.inl rfl)
  | case2 cs => exact .inl (.inr rfl)
  | case3 cs hminus hplus =>
    refine .inr ⟨?_, rfl⟩
    cases cs with
    | nil => exact ⟨nofun, nofun⟩
    | cons c cs => exact ⟨by rintro ⟨⟩; exact hminus cs rfl, by rintro ⟨⟩; exact hplus cs rfl⟩

theorem unsigned_of_signless {cs : List Char} (h : Signless cs) : unsigned cs = cs := by
  rcases unsigned_cases cs with (heq | heq) | ⟨-, heq⟩
  · exact absurd (congrArg List.head? heq) h.1
  · exact absurd (congrArg List.head? heq) h.2
  · exact heq

theorem exists_signed_iff {P : List Char → Prop} (hP : ∀ cs, P cs → Signless cs)
    (cs : List Char) :
    (∃ sign rest, Sign sign ∧ P rest ∧ cs = sign ++ rest) ↔ P (unsigned cs) := by
  constructor
  · rintro ⟨_, rest, hsign, hrest, rfl⟩
    cases hsign with
    | none => rwa [List.nil_append, unsigned_of_signless (hP rest hrest)]
    | minus => exact hrest
    | plus => exact hrest
  · intro h
    rcases unsigned_cases cs with (heq | heq) | ⟨-, heq⟩
    · exact ⟨['-'], _, .minus, h, heq⟩
    · exact ⟨['+'], _, .plus, h, heq⟩
    · exact ⟨[], _, .none, h, heq.symm⟩

theorem signless_of_digit {c : Char} (hc : isDigit c = true) (rest : List Char) :
    Signless (c :: rest) := by
  refine ⟨?_, ?_⟩ <;> rintro ⟨⟩ <;> cases hc

theorem signless_digits {cs : List Char} (h : Digits cs) : Signless cs := by
  cases cs with
  | nil => exact ⟨nofun, nofun⟩
  | cons c cs => exact signless_of_digit (h c List.mem_cons_self) cs

theorem bySign_eq {α : Type} (minus plus : List Char → α) (cs : List Char) :
    (match cs with
      | '-' :: cs => minus cs
      | '+' :: cs => plus cs
      | cs => plus cs) = if hasMinus cs then minus (unsigned cs) else plus (unsigned cs) := by
  rcases unsigned_cases cs with (heq | heq) | ⟨hsignless, heq⟩
  · rw [heq]
    rfl
  · rw [heq]
    rfl
  · rw [heq, hasMinus, beq_eq_false_iff_ne.mpr hsignless.1]
    split
    · exact absurd rfl hsignless.1
    · exact absurd rfl hsignless.2
    · rfl

def magnitude? (cs : List Char) : Option ℕ :=
  if cs.isEmpty || !cs.all isDigit then none else some (decimal cs)

def signed (minus : Bool) (n : ℕ) : ℤ := if minus then -n else n

theorem magnitude?_eq_some_iff {cs : List Char} {n : ℕ} :
    magnitude? cs = some n ↔ cs ≠ [] ∧ Digits cs ∧ decimal cs = n := by
  have hempty : (cs.isEmpty || !cs.all isDigit) = true ↔ ¬ (cs ≠ [] ∧ Digits cs) := by
    simp [Digits, imp_iff_not_or]
  unfold magnitude?
  rw [← and_assoc]
  split_ifs with h
  · exact iff_of_false nofun fun hread => hempty.mp h hread.1
  · rw [Option.some.injEq, and_iff_right (not_not.mp (mt hempty.mpr h))]

theorem magnitude?_isSome_iff {cs : List Char} :
    (magnitude? cs).isSome = true ↔ cs ≠ [] ∧ Digits cs := by
  simp [Option.isSome_iff_exists, magnitude?_eq_some_iff]

theorem exponent?_eq (cs : List Char) :
    exponent? cs = (magnitude? (unsigned cs)).map (signed (hasMinus cs)) := by
  refine (bySign_eq (fun cs => ((magnitude? cs) >>= fun n => pure (n : ℤ)).map fun n => -n)
    (fun cs => ((magnitude? cs) >>= fun n => pure (n : ℤ)).map fun n => n) cs).trans ?_
  cases hasMinus cs <;> cases magnitude? (unsigned cs) <;> rfl

theorem ofText?_eq (s : String) :
    ofText? s = ofUnsigned? (hasMinus s.toList) (unsigned s.toList) := by
  refine (bySign_eq (ofUnsigned? true) (ofUnsigned? false) s.toList).trans ?_
  cases hasMinus s.toList <;> rfl

def fraction : List Char → List Char
  | '.' :: rest => rest.takeWhile isDigit
  | _ => []

def afterFraction : List Char → List Char
  | '.' :: rest => rest.dropWhile isDigit
  | rest => rest

def named? (negative : Bool) (cs : List Char) : Option Real :=
  match String.ofList (cs.map Text.asciiLower) with
  | "inf" => some (infinite negative)
  | "infinity" => some (infinite negative)
  | "nan" => some nan
  | _ => none

def withPower? (negative : Bool) (whole fraction : List Char) : List Char → Option Real
  | [] => some (ofParts negative whole fraction 0)
  | 'e' :: rest => (exponent? rest).map (ofParts negative whole fraction)
  | 'E' :: rest => (exponent? rest).map (ofParts negative whole fraction)
  | _ => none

theorem ofUnsigned?_eq (negative : Bool) (cs : List Char) :
    ofUnsigned? negative cs =
      let whole := cs.takeWhile isDigit
      let rest := cs.dropWhile isDigit
      if whole.isEmpty && (fraction rest).isEmpty then named? negative cs
      else withPower? negative whole (fraction rest) (afterFraction rest) :=
  rfl

theorem withPower?_isSome_iff (negative : Bool) (whole fraction cs : List Char) :
    (withPower? negative whole fraction cs).isSome = true ↔ Power cs := by
  have hexponent {e : Char} (he : e = 'e' ∨ e = 'E') (rest : List Char) :
      (exponent? rest).isSome = true ↔ Power (e :: rest) := by
    rw [exponent?_eq, Option.isSome_map, magnitude?_isSome_iff,
      ← exists_signed_iff (P := fun cs => cs ≠ [] ∧ Digits cs) fun _ h => signless_digits h.2]
    constructor
    · rintro ⟨sign, digits, hsign, ⟨hne, hdigits⟩, rfl⟩
      exact .letter he hsign hne hdigits
    · rintro (_ | ⟨-, hsign, hne, hdigits⟩)
      exact ⟨_, _, hsign, ⟨hne, hdigits⟩, rfl⟩
  fun_cases withPower? negative whole fraction cs with
  | case1 => exact iff_of_true rfl .none
  | case2 rest => rw [Option.isSome_map, hexponent (.inl rfl)]
  | case3 rest => rw [Option.isSome_map, hexponent (.inr rfl)]
  | case4 cs hnil hlower hupper =>
    refine iff_of_false nofun ?_
    rintro (_ | ⟨rfl | rfl, -⟩)
    · exact hnil rfl
    · exact hlower _ rfl
    · exact hupper _ rfl

theorem named?_isSome_iff (negative : Bool) (cs : List Char) :
    (named? negative cs).isSome = true ↔
      String.ofList (cs.map Text.asciiLower) ∈ ["inf", "infinity", "nan"] := by
  unfold named?
  split <;> simp_all

/-- Whether the digits in front of a text end there. -/
def Stops (cs : List Char) : Prop := ∀ c, cs.head? = some c → isDigit c = false

theorem takeWhile_stops {digits rest : List Char} (hdigits : Digits digits) (hrest : Stops rest) :
    (digits ++ rest).takeWhile isDigit = digits := by
  rw [List.takeWhile_append_of_pos hdigits]
  cases rest with
  | nil => simp
  | cons c rest => simp [hrest c rfl]

theorem dropWhile_stops {digits rest : List Char} (hdigits : Digits digits) (hrest : Stops rest) :
    (digits ++ rest).dropWhile isDigit = rest := by
  rw [List.dropWhile_append_of_pos hdigits]
  cases rest with
  | nil => rfl
  | cons c rest => simp [hrest c rfl]

theorem stops_point (rest : List Char) : Stops ('.' :: rest) := by
  rintro c ⟨⟩
  rfl

theorem Power.stops {cs : List Char} (h : Power cs) : Stops cs ∧ cs.head? ≠ some '.' := by
  cases h with
  | none => exact ⟨nofun, nofun⟩
  | letter he =>
    rcases he with rfl | rfl
    · exact ⟨by rintro c ⟨⟩; rfl, nofun⟩
    · exact ⟨by rintro c ⟨⟩; rfl, nofun⟩

section Parts

variable {whole digits rest : List Char} (negative : Bool)

theorem fraction_of_no_point (hpoint : rest.head? ≠ some '.') :
    fraction rest = [] ∧ afterFraction rest = rest := by
  cases rest with
  | nil => exact ⟨rfl, rfl⟩
  | cons c rest =>
    have hc : c ≠ '.' := by rintro rfl; exact hpoint rfl
    simp [fraction, afterFraction, hc]

theorem ofUnsigned?_whole (hwhole : Digits whole) (hne : whole ≠ []) (hrest : Stops rest)
    (hpoint : rest.head? ≠ some '.') :
    ofUnsigned? negative (whole ++ rest) = withPower? negative whole [] rest := by
  rw [ofUnsigned?_eq, takeWhile_stops hwhole hrest, dropWhile_stops hwhole hrest]
  simp [fraction_of_no_point hpoint, hne]

theorem ofUnsigned?_pointed (hwhole : Digits whole) (hdigits : Digits digits)
    (hne : whole ≠ [] ∨ digits ≠ []) (hrest : Stops rest) :
    ofUnsigned? negative (whole ++ '.' :: (digits ++ rest)) =
      withPower? negative whole digits rest := by
  have hfraction : fraction ('.' :: (digits ++ rest)) = digits := takeWhile_stops hdigits hrest
  have hafter : afterFraction ('.' :: (digits ++ rest)) = rest := dropWhile_stops hdigits hrest
  rw [ofUnsigned?_eq, takeWhile_stops hwhole (stops_point _),
    dropWhile_stops hwhole (stops_point _)]
  dsimp only
  rw [hfraction, hafter, if_neg]
  simpa [or_iff_not_imp_left] using hne

end Parts

theorem lt_of_digit {c : Char} (h : isDigit c = true) : c.toNat < 65 := by
  have hle : c.toNat ≤ '9'.toNat := of_decide_eq_true (Bool.and_eq_true_iff.mp h).2
  exact hle.trans_lt (by decide)

theorem asciiLower_of_digit {c : Char} (h : isDigit c = true) : Text.asciiLower c = c :=
  (Text.asciiLower_cases c).resolve_right fun hletter =>
    absurd (lt_of_digit h) (Nat.not_lt.mpr hletter.1)

theorem letter_of_name {cs : List Char}
    (h : String.ofList (cs.map Text.asciiLower) ∈ ["inf", "infinity", "nan"]) :
    ∃ c rest, cs = c :: rest ∧ (Text.asciiLower c = 'i' ∨ Text.asciiLower c = 'n') := by
  simp only [List.mem_cons, List.not_mem_nil, or_false, ← String.toList_inj,
    String.toList_ofList] at h
  cases cs with
  | nil => simp at h
  | cons c rest =>
    refine ⟨c, rest, rfl, ?_⟩
    rcases h with h | h | h
    · exact .inl (List.cons.inj h).1
    · exact .inl (List.cons.inj h).1
    · exact .inr (List.cons.inj h).1

theorem stops_of_name {cs : List Char}
    (h : String.ofList (cs.map Text.asciiLower) ∈ ["inf", "infinity", "nan"]) :
    Stops cs ∧ cs.head? ≠ some '.' := by
  obtain ⟨c, rest, rfl, hletter⟩ := letter_of_name h
  refine ⟨?_, ?_⟩
  · rintro _ ⟨⟩
    by_contra hdigit
    rw [Bool.not_eq_false] at hdigit
    rw [asciiLower_of_digit hdigit] at hletter
    rcases hletter with rfl | rfl <;> cases hdigit
  · rintro ⟨⟩
    rcases hletter with h | h <;> exact absurd h (by decide)

theorem unsigned_of_isSome {negative : Bool} {cs : List Char}
    (h : (ofUnsigned? negative cs).isSome = true) : Unsigned cs := by
  rw [ofUnsigned?_eq] at h
  dsimp only at h
  have hsplit := cs.takeWhile_append_dropWhile (p := isDigit)
  have hwhole : Digits (cs.takeWhile isDigit) := fun c hc => List.mem_takeWhile_imp hc
  generalize cs.takeWhile isDigit = whole at *
  generalize cs.dropWhile isDigit = rest at *
  subst hsplit
  split_ifs at h with hempty
  · exact .name ((named?_isSome_iff _ _).mp h)
  · have hpower := (withPower?_isSome_iff _ _ _ _).mp h
    rcases eq_or_ne (rest.head?) (some '.') with hpoint | hpoint
    · obtain ⟨rest, rfl⟩ := List.head?_eq_some_iff.mp hpoint
      rw [← rest.takeWhile_append_dropWhile (p := isDigit)]
      refine .pointed hwhole (fun c hc => List.mem_takeWhile_imp hc) ?_ hpower
      simpa [or_iff_not_imp_left, fraction] using hempty
    · obtain ⟨hfraction, hafter⟩ := fraction_of_no_point hpoint
      rw [hafter] at hpower
      refine .whole hwhole ?_ hpower
      simpa [hfraction] using hempty

theorem Unsigned.isSome {cs : List Char} (h : Unsigned cs) (negative : Bool) :
    (ofUnsigned? negative cs).isSome = true := by
  cases h with
  | whole hwhole hne hpower =>
    rw [ofUnsigned?_whole negative hwhole hne hpower.stops.1 hpower.stops.2, withPower?_isSome_iff]
    exact hpower
  | pointed hwhole hfraction hne hpower =>
    rw [ofUnsigned?_pointed negative hwhole hfraction hne hpower.stops.1, withPower?_isSome_iff]
    exact hpower
  | name h =>
    obtain ⟨hstops, hpoint⟩ := stops_of_name h
    have hnone : Digits [] := nofun
    have hwhole := takeWhile_stops hnone hstops
    have hrest := dropWhile_stops hnone hstops
    rw [List.nil_append] at hwhole hrest
    rw [ofUnsigned?_eq]
    dsimp only
    rw [hwhole, hrest, (fraction_of_no_point hpoint).1]
    exact (named?_isSome_iff negative cs).mpr h

theorem Unsigned.signless {cs : List Char} (h : Unsigned cs) : Signless cs := by
  cases h with
  | whole hwhole hne hpower =>
    obtain ⟨c, rest, rfl⟩ := List.exists_cons_of_ne_nil hne
    exact signless_of_digit (hwhole c List.mem_cons_self) _
  | @pointed whole fraction power hwhole hfraction hne hpower =>
    cases whole with
    | nil => exact ⟨nofun, nofun⟩
    | cons c rest => exact signless_of_digit (hwhole c List.mem_cons_self) _
  | name h =>
    obtain ⟨c, rest, rfl, hletter⟩ := letter_of_name h
    refine ⟨?_, ?_⟩ <;> rintro ⟨⟩ <;> rcases hletter with h | h <;> exact absurd h (by decide)

theorem ofText?_isSome_iff (s : String) : (ofText? s).isSome = true ↔ Numeral s := by
  rw [ofText?_eq, Numeral, exists_signed_iff (P := Unsigned) fun _ => Unsigned.signless]
  exact ⟨unsigned_of_isSome, fun h => h.isSome _⟩

instance : DecidablePred Numeral := fun s => decidable_of_iff _ (ofText?_isSome_iff s)

example : Numeral "-.5e+07" ∧ ¬ Numeral "1_000" := by decide +kernel

def Letter (c : Char) : Prop := 97 ≤ (Text.asciiLower c).toNat ∧ (Text.asciiLower c).toNat ≤ 122

def NumeralChar (c : Char) : Prop := isDigit c = true ∨ c ∈ ['+', '-', '.'] ∨ Letter c

theorem Letter.ge {c : Char} (h : Letter c) : 65 ≤ c.toNat := by
  rcases Text.asciiLower_cases c with heq | ⟨hge, -⟩
  · rw [Letter, heq] at h
    omega
  · exact hge

theorem Sign.chars {cs : List Char} (h : Sign cs) : ∀ c ∈ cs, NumeralChar c := by
  intro c hc
  cases h with
  | none => cases hc
  | minus =>
    obtain rfl := List.mem_singleton.mp hc
    exact .inr (.inl (by decide))
  | plus =>
    obtain rfl := List.mem_singleton.mp hc
    exact .inr (.inl (by decide))

theorem Power.chars {cs : List Char} (h : Power cs) : ∀ c ∈ cs, NumeralChar c := by
  intro c hc
  cases h with
  | none => cases hc
  | letter he hsign hne hdigits =>
    rcases List.mem_cons.mp hc with rfl | hc
    · rcases he with rfl | rfl <;> exact .inr (.inr ⟨by decide, by decide⟩)
    · exact (List.mem_append.mp hc).elim (hsign.chars c) fun hc => .inl (hdigits c hc)

theorem chars_of_name {cs : List Char}
    (h : String.ofList (cs.map Text.asciiLower) ∈ ["inf", "infinity", "nan"]) :
    ∀ c ∈ cs, NumeralChar c := by
  have hall : (["inf", "infinity", "nan"].all fun name => name.toList.all fun d =>
      97 ≤ d.toNat ∧ d.toNat ≤ 122) = true := by
    decide
  have hname := List.all_eq_true.mp hall _ h
  rw [String.toList_ofList, List.all_map, List.all_eq_true] at hname
  intro c hc
  obtain ⟨hge, hle⟩ := of_decide_eq_true (hname c hc)
  exact .inr (.inr ⟨hge, hle⟩)

theorem Unsigned.chars {cs : List Char} (h : Unsigned cs) : ∀ c ∈ cs, NumeralChar c := by
  intro c hc
  cases h with
  | whole hwhole hne hpower =>
    exact (List.mem_append.mp hc).elim (fun hc => .inl (hwhole c hc)) (hpower.chars c)
  | pointed hwhole hfraction hne hpower =>
    simp only [List.mem_append, List.mem_cons] at hc
    rcases hc with hc | rfl | hc | hc
    · exact .inl (hwhole c hc)
    · exact .inr (.inl (by decide))
    · exact .inl (hfraction c hc)
    · exact hpower.chars c hc
  | name h => exact chars_of_name h c hc

theorem Numeral.chars {s : String} (h : Numeral s) : ∀ c ∈ s.toList, NumeralChar c := by
  obtain ⟨sign, cs, hsign, hunsigned, heq⟩ := h
  intro c hc
  rw [heq, List.mem_append] at hc
  exact hc.elim (hsign.chars c) (hunsigned.chars c)

end PlanningSearch.Settings.Real
