import Mathlib.Data.List.Basic
import PlanningSearch.Json.Value

/-!
The tokens of written values. A value whose numbers are integers of 64 bits is written as a text
that is read as its tokens, whatever characters its texts and names hold: each character is written
so that it is read as itself and never as the end of its text, and a number ends where its digits
do.
-/

namespace PlanningSearch.Json

open Token Value

theorem hex4?_hexLetter : ∀ n < 0x20,
    hex4? '0' '0' (hexLetter (n / 16)) (hexLetter (n % 16)) = some n := by
  decide

theorem escapeChar_cases (c : Char) :
    (∃ e, escapeChar c = ['\\', e] ∧ simpleEscape? e = some c) ∨
    (∃ high low, escapeChar c = ['\\', 'u', '0', '0', high, low] ∧
      hex4? '0' '0' high low = some c.toNat ∧ c.toNat < 0x20) ∨
    (escapeChar c = [c] ∧ c ≠ '"' ∧ c ≠ '\\' ∧ isControl c = false) := by
  unfold escapeChar
  split
  case h_8 hquote hslash _ _ _ _ _ =>
    split
    · rename_i hcontrol
      exact .inr (.inl ⟨_, _, rfl, hex4?_hexLetter _ hcontrol, hcontrol⟩)
    · rename_i hcontrol
      exact .inr (.inr ⟨rfl, hquote, hslash, decide_eq_false hcontrol⟩)
  all_goals exact .inl ⟨_, rfl, rfl⟩

theorem ne_u_of_simpleEscape? {e c : Char} (h : simpleEscape? e = some c) : e ≠ 'u' := by
  rintro rfl
  cases h

theorem readText_escapeChar (c : Char) (rest : List Char) :
    readText (escapeChar c ++ rest) = (readText rest).map (c :: ·) := by
  rcases escapeChar_cases c with
    ⟨e, heq, he⟩ | ⟨high, low, heq, hhex, hlt⟩ | ⟨heq, hquote, hslash, hc⟩
  · have hu := ne_u_of_simpleEscape? he
    simp [heq, readText, he, hu]
  · -- a control character is no half of a pair, so the code that follows is not looked at
    have hlow : isLow c.toNat = false := by simp [isLow]; omega
    have hhigh : isHigh c.toNat = false := by simp [isHigh]; omega
    simp [heq, readText, hhex, hlow, hhigh]
  · simp [heq, readText, hslash, hc]

theorem skipText_escapeChar (c : Char) (rest : List Char) :
    skipText (escapeChar c ++ rest) = skipText rest := by
  rcases escapeChar_cases c with
    ⟨e, heq, he⟩ | ⟨high, low, heq, hhex, hlt⟩ | ⟨heq, hquote, hslash, hc⟩
  · have hu := ne_u_of_simpleEscape? he
    simp [heq, skipText, he, hu]
  · simp [heq, skipText, hhex]
  · simp [heq, skipText, hslash, hc]

theorem readText_escaped (cs rest : List Char) :
    readText (cs.flatMap escapeChar ++ '"' :: rest) = .ok cs := by
  induction cs with
  | nil => simp [readText]
  | cons c cs ih =>
    rw [List.flatMap_cons, List.append_assoc, readText_escapeChar, ih]
    rfl

theorem skipText_escaped (cs rest : List Char) :
    skipText (cs.flatMap escapeChar ++ '"' :: rest) = .ok rest := by
  induction cs with
  | nil => simp [skipText]
  | cons c cs ih => rw [List.flatMap_cons, List.append_assoc, skipText_escapeChar, ih]

/-- The text behind a number that does not go on with it. -/
def Ended (rest : List Char) : Prop :=
  ∀ c ∈ rest.head?, isDigit c = false ∧ c ≠ '.' ∧ c ≠ 'e' ∧ c ≠ 'E'

theorem le_ofDigitChars (ds : List Char) (n : Nat) : n ≤ Nat.ofDigitChars 10 ds n := by
  induction ds generalizing n with
  | nil => simp
  | cons d ds ih =>
    rw [Nat.ofDigitChars_cons]
    refine Nat.le_trans ?_ (ih _)
    omega

theorem takeWhole_of_le {ds : List Char} {n : Nat} (h : Nat.ofDigitChars 10 ds n ≤ maxWord) :
    takeWhole n 0 ds = (Nat.ofDigitChars 10 ds n, 0) := by
  induction ds generalizing n with
  | nil => simp [takeWhole]
  | cons d ds ih =>
    rw [Nat.ofDigitChars_cons, Nat.mul_comm] at h ⊢
    -- further digits only add, so the bound on the number holds of every part of it
    have hle : n * 10 + digit d ≤ maxWord := Nat.le_trans (le_ofDigitChars ds _) h
    rw [takeWhole, if_pos ⟨rfl, hle⟩]
    exact ih h

theorem toDigits_cases (n : Nat) :
    n = 0 ∨ ∃ d ds, Nat.toDigits 10 n = d :: ds ∧ d ≠ '0' := by
  have hdigit : ∀ n < 10, n = 0 ∨ Nat.digitChar n ≠ '0' := by decide
  induction n using Nat.strongRecOn with
  | ind n ih =>
    by_cases hlt : n < 10
    · rw [Nat.toDigits_of_lt_base hlt]
      exact (hdigit n hlt).imp_right fun hd => ⟨_, [], rfl, hd⟩
    · rcases ih (n / 10) (by omega) with hzero | ⟨d, ds, hds, hd⟩
      · exact absurd hzero (by omega)
      · rw [Nat.toDigits_of_base_le (by decide) (by omega), hds]
        exact .inr ⟨d, _, rfl, hd⟩

theorem isDigit_toDigits {n : Nat} {c : Char} (h : c ∈ Nat.toDigits 10 n) : isDigit c = true :=
  Nat.isDigit_of_mem_toDigits (b := 10) (by decide) (by decide) h

section Digits

variable {ds rest : List Char}

theorem takeWhile_digits (hds : ∀ c ∈ ds, isDigit c = true) (hrest : Ended rest) :
    (ds ++ rest).takeWhile isDigit = ds := by
  rw [List.takeWhile_append_of_pos hds]
  cases rest with
  | nil => simp
  | cons c rest => simp [(hrest c rfl).1]

theorem dropWhile_digits (hds : ∀ c ∈ ds, isDigit c = true) (hrest : Ended rest) :
    (ds ++ rest).dropWhile isDigit = rest := by
  rw [List.dropWhile_append_of_pos hds]
  cases rest with
  | nil => rfl
  | cons c rest => simp [(hrest c rfl).1]

theorem wholePart_toDigits (n : Nat) (hrest : Ended rest) :
    wholePart (Nat.toDigits 10 n ++ rest) = .ok (Nat.toDigits 10 n, rest) := by
  rcases toDigits_cases n with rfl | ⟨d, ds, hds, hd⟩
  · cases rest with
    | nil => rfl
    | cons c rest => simp [wholePart, (hrest c rfl).1]
  · have hall : ∀ c ∈ d :: ds, isDigit c = true := fun c hc => isDigit_toDigits (hds ▸ hc)
    have htake := takeWhile_digits hall hrest
    have hdrop := dropWhile_digits hall hrest
    rw [hds]
    rw [List.cons_append] at htake hdrop ⊢
    simp [wholePart, hd, someDigits, htake, hdrop]

theorem numeral_toDigits (n : Nat) (hrest : Ended rest) :
    numeral (Nat.toDigits 10 n ++ rest) = .ok (⟨false, Nat.toDigits 10 n, none, none⟩, rest) := by
  have hfraction : fractionPart rest = .ok (none, rest) := by
    cases rest with
    | nil => rfl
    | cons c rest => simp [fractionPart, (hrest c rfl).2.1]
  have hexponent : exponentPart rest = .ok (none, rest) := by
    cases rest with
    | nil => rfl
    | cons c rest => simp [exponentPart, (hrest c rfl).2.2]
  -- a number that starts with a digit has no sign
  have hsign : ((Nat.toDigits 10 n ++ rest).head? == some '-') = false := by
    obtain ⟨d, ds, hds⟩ := List.exists_cons_of_ne_nil (Nat.toDigits_ne_nil (n := n) (b := 10))
    have hd : isDigit d = true := isDigit_toDigits (hds ▸ List.mem_cons_self)
    rw [hds]
    simp
    rintro rfl
    cases hd
  have hwhole := wholePart_toDigits n hrest
  generalize Nat.toDigits 10 n ++ rest = cs at hsign hwhole ⊢
  simp [numeral, hsign, hwhole, hfraction, hexponent, bind, Except.bind, pure, Except.pure]

theorem value_toDigits {n : Nat} (h : n ≤ maxWord) :
    Numeral.value ⟨false, Nat.toDigits 10 n, none, none⟩ = .ok (.int n) := by
  have hdigits : Nat.ofDigitChars 10 (Nat.toDigits 10 n) 0 = n := Nat.ofDigitChars_ten_toDigits
  have htake : takeWhole 0 0 (Nat.toDigits 10 n) = (n, 0) := by
    rw [takeWhole_of_le (by rw [hdigits]; exact h), hdigits]
  simp [Numeral.value, htake]
end Digits

theorem dropBlank_digit {c : Char} (hc : isDigit c = true) (cs : List Char) :
    dropBlank (c :: cs) = c :: cs := by
  have hblank : (c == ' ' || c == '\n' || c == '\t' || c == '\r') = false := by
    by_contra h
    simp only [Bool.not_eq_false, Bool.or_eq_true, beq_iff_eq] at h
    rcases h with ((rfl | rfl) | rfl) | rfl <;> cases hc
  rw [dropBlank, List.dropWhile_cons, if_neg (by simp [hblank])]

theorem next_digit {c : Char} (hc : isDigit c = true) {cs rest : List Char} {n : Numeral}
    (h : numeral (c :: cs) = .ok (n, rest)) : next c cs = (.number n.value none, some rest) := by
  unfold next
  split
  case h_11 => simp [hc, h]
  all_goals cases hc

def Mark.char : Mark → Char
  | .openArray => '['
  | .closeArray => ']'
  | .openObject => '\x7b'
  | .closeObject => '\x7d'
  | .comma => ','
  | .colon => ':'

inductive Lexes : List Char → List Token → List Char → Prop where
  | nil (cs : List Char) : Lexes cs [] cs
  | cons {c : Char} {cs rest left : List Char} {t : Token} {ts : List Token}
      (start : dropBlank (c :: cs) = c :: cs) (read : next c cs = (t, some rest))
      (shorter : rest.length ≤ cs.length) (further : Lexes rest ts left) :
      Lexes (c :: cs) (t :: ts) left

namespace Lexes

theorem trans {cs mid left : List Char} {ts ts' : List Token} (h : Lexes cs ts mid)
    (h' : Lexes mid ts' left) : Lexes cs (ts ++ ts') left := by
  induction h with
  | nil => exact h'
  | cons start read shorter _ ih => exact .cons start read shorter (ih h')

theorem scan_eq {cs left : List Char} {ts : List Token} (h : Lexes cs ts left) {fuel : Nat}
    (hfuel : cs.length ≤ fuel) :
    ∃ fuel', left.length ≤ fuel' ∧ scan fuel cs = ts ++ scan fuel' left := by
  induction h generalizing fuel with
  | nil cs => exact ⟨fuel, hfuel, rfl⟩
  | @cons c cs rest left t ts start read shorter _ ih =>
    cases fuel with
    | zero => cases hfuel
    | succ fuel =>
      have hrest : rest.length ≤ fuel := Nat.le_trans shorter (Nat.le_of_succ_le_succ hfuel)
      obtain ⟨fuel', hleft, hscan⟩ := ih hrest
      refine ⟨fuel', hleft, ?_⟩
      simp only [scan, start, read, hscan, List.cons_append]

theorem tokens_eq {s : String} {ts : List Token} (h : Lexes s.toList ts []) : tokens s = ts := by
  obtain ⟨fuel, -, hscan⟩ := h.scan_eq (Nat.le_refl _)
  rw [tokens, hscan]
  cases fuel <;> exact List.append_nil ts

theorem text (cs rest : List Char) : Lexes (quote cs ++ rest) [.text (.ok cs) none] rest := by
  have hsplit : quote cs ++ rest = '"' :: (cs.flatMap escapeChar ++ '"' :: rest) := by
    simp [quote]
  rw [hsplit]
  refine .cons rfl ?_ ?_ (.nil rest)
  · simp [next, readText_escaped, skipText_escaped]
  · simp
    omega

theorem number {n : Nat} (hn : n ≤ maxWord) {rest : List Char} (hrest : Ended rest) :
    Lexes ((Number.int n).render.toList ++ rest) [.number (.ok (.int n)) none] rest := by
  have hrender : (Number.int n).render = String.ofList (Nat.toDigits 10 n) :=
    Nat.repr_eq_ofList_toDigits
  have hnumeral := numeral_toDigits n hrest
  obtain ⟨d, ds, hds⟩ := List.exists_cons_of_ne_nil (Nat.toDigits_ne_nil (n := n) (b := 10))
  have hd : isDigit d = true := isDigit_toDigits (hds ▸ List.mem_cons_self)
  rw [hrender, String.toList_ofList]
  rw [hds, List.cons_append] at hnumeral ⊢
  refine .cons (dropBlank_digit hd _) ?_ (by simp) (.nil rest)
  rw [next_digit hd hnumeral, ← hds, value_toDigits hn]

theorem mark (m : Mark) (rest : List Char) : Lexes (m.char :: rest) [.mark m] rest := by
  cases m <;> exact .cons rfl rfl (Nat.le_refl _) (.nil rest)

theorem word {c : Char} {expected : List Char} {t : Token}
    (hread : ∀ cs, next c (expected ++ cs) = (t, some cs))
    (hstart : ∀ cs, dropBlank (c :: cs) = c :: cs) (rest : List Char) :
    Lexes (c :: expected ++ rest) [t] rest :=
  .cons (hstart _) (hread rest) (by simp) (.nil rest)

end Lexes

namespace Value

mutual

def tokens : Value → List Token
  | null => [.null]
  | bool b => [.bool b]
  | number n => [.number (.ok n) none]
  | text s => [.text (.ok s.toList) none]
  | array [] => [.mark .openArray, .mark .closeArray]
  | array (v :: vs) => .mark .openArray :: (tokens v ++ itemTokens vs)
  | object [] => [.mark .openObject, .mark .closeObject]
  | object ((k, v) :: ms) =>
    .mark .openObject :: .text (.ok k.toList) none :: .mark .colon :: (tokens v ++ memberTokens ms)

def itemTokens : List Value → List Token
  | [] => [.mark .closeArray]
  | v :: vs => .mark .comma :: (tokens v ++ itemTokens vs)

def memberTokens : List (String × Value) → List Token
  | [] => [.mark .closeObject]
  | (k, v) :: ms =>
    .mark .comma :: .text (.ok k.toList) none :: .mark .colon :: (tokens v ++ memberTokens ms)

end

inductive Whole : Value → Prop where
  | null : Whole null
  | bool (b : Bool) : Whole (bool b)
  | nat {n : Nat} (h : n ≤ maxWord) : Whole (.nat n)
  | text (s : String) : Whole (text s)
  | array {vs : List Value} (h : ∀ v ∈ vs, Whole v) : Whole (array vs)
  | object {ms : List (String × Value)} (h : ∀ m ∈ ms, Whole m.2) : Whole (object ms)

theorem ended_items (vs : List Value) (rest : List Char) : Ended (renderItems vs ++ rest) := by
  cases vs <;> (intro c hc; cases hc; decide)

theorem ended_members (ms : List (String × Value)) (rest : List Char) :
    Ended (renderMembers ms ++ rest) := by
  cases ms <;> (intro c hc; cases hc; decide)

mutual

theorem lexes : ∀ {v : Value}, v.Whole → ∀ {rest : List Char}, Ended rest →
    Lexes (v.renderChars ++ rest) v.tokens rest
  | .null, _, rest, _ => by
    simp only [renderChars, tokens]
    exact .word (fun _ => rfl) (fun _ => rfl) rest
  | .bool true, _, rest, _ => by
    simp only [renderChars, tokens]
    exact .word (fun _ => rfl) (fun _ => rfl) rest
  | .bool false, _, rest, _ => by
    simp only [renderChars, tokens]
    exact .word (fun _ => rfl) (fun _ => rfl) rest
  | .number _, h, rest, hrest => by
    cases h with
    | nat hn =>
      simp only [renderChars, tokens]
      exact .number hn hrest
  | .text s, _, rest, _ => by
    simp only [renderChars, tokens]
    exact .text s.toList rest
  | .array [], _, rest, _ => by
    simp only [renderChars, tokens]
    exact .trans (.mark .openArray _) (.mark .closeArray rest)
  | .array (v :: vs), h, rest, _ => by
    cases h with
    | array h =>
      obtain ⟨hv, hvs⟩ := List.forall_mem_cons.mp h
      have hfirst := lexes hv (ended_items vs rest)
      simp only [renderChars, tokens, List.cons_append, List.append_assoc]
      exact .trans (.mark .openArray _) (hfirst.trans (lexes_items hvs rest))
  | .object [], _, rest, _ => by
    simp only [renderChars, tokens]
    exact .trans (.mark .openObject _) (.mark .closeObject rest)
  | .object ((k, v) :: ms), h, rest, _ => by
    cases h with
    | object h =>
      obtain ⟨hv, hms⟩ := List.forall_mem_cons.mp h
      have hfirst := lexes hv (ended_members ms rest)
      simp only [renderChars, tokens, List.cons_append, List.append_assoc]
      refine .trans (.mark .openObject _) (.trans (.text k.toList _) ?_)
      exact .trans (.mark .colon _) (hfirst.trans (lexes_members hms rest))

theorem lexes_items : ∀ {vs : List Value}, (∀ v ∈ vs, v.Whole) → ∀ rest : List Char,
    Lexes (renderItems vs ++ rest) (itemTokens vs) rest
  | [], _, rest => by
    simp only [renderItems, itemTokens]
    exact .mark .closeArray rest
  | v :: vs, h, rest => by
    obtain ⟨hv, hvs⟩ := List.forall_mem_cons.mp h
    have hfirst := lexes hv (ended_items vs rest)
    simp only [renderItems, itemTokens, List.cons_append, List.append_assoc]
    exact .trans (.mark .comma _) (hfirst.trans (lexes_items hvs rest))

theorem lexes_members : ∀ {ms : List (String × Value)}, (∀ m ∈ ms, m.2.Whole) →
    ∀ rest : List Char, Lexes (renderMembers ms ++ rest) (memberTokens ms) rest
  | [], _, rest => by
    simp only [renderMembers, memberTokens]
    exact .mark .closeObject rest
  | (k, v) :: ms, h, rest => by
    obtain ⟨hv, hms⟩ := List.forall_mem_cons.mp h
    have hfirst := lexes hv (ended_members ms rest)
    simp only [renderMembers, memberTokens, List.cons_append, List.append_assoc]
    refine .trans (.mark .comma _) (.trans (.text k.toList _) ?_)
    exact .trans (.mark .colon _) (hfirst.trans (lexes_members hms rest))

end

theorem tokens_render {v : Value} (h : v.Whole) : Json.tokens v.render = v.tokens := by
  have hended : Ended [] := fun c hc => by cases hc
  have hlexes := lexes h hended
  rw [List.append_nil] at hlexes
  refine Lexes.tokens_eq ?_
  rw [render, String.toList_ofList]
  exact hlexes

end Value

end PlanningSearch.Json
