import PlanningSearch.Proofs.Settings.Layers
import PlanningSearch.Proofs.Settings.Printed

/-!
Text settings from the environment. A text in the environment stands for a truth value or a number
if it reads as one, also where the setting is a text; the setting is then the text of that value. So
it is the text that was given exactly when that text reads as nothing else or is itself the text of
a truth value, of a 64-bit integer or of a binary64 number. A text in a settings file is kept.
-/

namespace PlanningSearch.Settings

open PlanningSearch.Settings.Real

/-- The texts that reading and writing out leave as they are. -/
inductive Verbatim (v : String) : Prop where
  | word (htrue : Text.lower v ≠ "true") (hfalse : Text.lower v ≠ "false") (hnumeral : ¬ Numeral v)
  | truth (b : Bool) (h : v = if b then "true" else "false")
  | integer (i : ℤ) (hi : Fits i) (h : v = toString i)
  | number (r : Real) (hr : r.Normal) (hzero : v ≠ "-0") (h : v = r.render)

theorem lower_eq_iff {s word : String} (hword : ∀ c ∈ word.toList, c.toNat < 128) :
    Text.lower s = word ↔ s.toList.map Text.Casing.lowerChar = word.toList := by
  rw [← Text.Casing.lowerFrom_eq_iff hword [], ← String.toList_inj, Text.lower,
    String.toList_ofList, Text.lowerChars]

theorem letter_of_lowerChar {c : Char} (hge : 97 ≤ (Text.Casing.lowerChar c).toNat)
    (hle : (Text.Casing.lowerChar c).toNat ≤ 122) (hk : Text.Casing.lowerChar c ≠ 'k') :
    Letter c := by
  have hc : c.toNat < 128 := by
    by_contra hbeyond
    rcases Text.Casing.lowerChar_of_not_ascii (Nat.not_lt.mp hbeyond) with hlower | heq
    · omega
    · exact hk heq
  rw [Text.Casing.lowerChar_of_ascii hc] at hge hle
  exact ⟨hge, hle⟩

theorem letters_of_truth {s : String} (h : Text.lower s = "true" ∨ Text.lower s = "false") :
    ∀ c ∈ s.toList, Letter c := by
  have hletters {word : String} (hword : Text.lower s = word)
      (hall : (word.toList.all fun d => 97 ≤ d.toNat ∧ d.toNat ≤ 122 ∧ d ≠ 'k') = true) :
      ∀ c ∈ s.toList, Letter c := by
    have hall := fun d hd => of_decide_eq_true (List.all_eq_true.mp hall d hd)
    rw [lower_eq_iff fun d hd => (hall d hd).2.1.trans_lt (by decide)] at hword
    intro c hc
    obtain ⟨hge, hle, hk⟩ := hall _ (hword ▸ List.mem_map_of_mem hc)
    exact letter_of_lowerChar hge hle hk
  rcases h with h | h <;> exact hletters h (by decide)

theorem lower_ne_of_head {s : String} {c : Char} {rest : List Char} (hs : s.toList = c :: rest)
    (hc : isDigit c = true ∨ c = '-') : Text.lower s ≠ "true" ∧ Text.lower s ≠ "false" := by
  have hbefore : c.toNat < 65 := hc.elim lt_of_digit (by rintro rfl; decide)
  rw [← not_or]
  intro h
  have hletter := (letters_of_truth h c (hs ▸ List.mem_cons_self)).ge
  omega

theorem ofText_eq {s : String} (h : Text.lower s ≠ "true" ∧ Text.lower s ≠ "false") :
    Loose.ofText s = match int64? s with
      | some i => .int i
      | none => match ofText? s with
        | some r => .real r
        | none => .text s := by
  unfold Loose.ofText
  split
  · exact absurd ‹_› h.1
  · exact absurd ‹_› h.2
  · rfl

theorem lower_toString (i : ℤ) :
    Text.lower (toString i) ≠ "true" ∧ Text.lower (toString i) ≠ "false" := by
  have hs := toList_toString i
  obtain ⟨c, rest, hdigits⟩ :=
    List.exists_cons_of_ne_nil (Nat.toDigits_ne_nil (n := i.natAbs) (b := 10))
  split_ifs at hs
  · exact lower_ne_of_head hs (.inr rfl)
  · exact lower_ne_of_head (hs.trans hdigits)
      (.inl (digits_toDigits i.natAbs c (hdigits ▸ List.mem_cons_self)))

theorem lower_render {r : Real} (hr : r.Normal) :
    Text.lower r.render ≠ "true" ∧ Text.lower r.render ≠ "false" := by
  cases r with
  | finite x =>
    have hs := toList_render x
    obtain ⟨c, rest, hbody, hdigit⟩ := exists_digit_body hr
    split_ifs at hs
    · exact lower_ne_of_head hs (.inr rfl)
    · exact lower_ne_of_head (hs.trans hbody) (.inl hdigit)
  | infinite negative => cases negative <;> decide +kernel
  | nan => decide +kernel

theorem numeral_of_int64? {s : String} {i : ℤ} (h : int64? s = some i) : Numeral s := by
  obtain ⟨hne, hdigits, -⟩ := (int64?_eq_some_iff s i).mp h
  have hunsigned := Unsigned.whole hdigits hne .none
  rw [List.append_nil] at hunsigned
  exact (exists_signed_iff (fun _ => Unsigned.signless) s.toList).mpr hunsigned

theorem verbatim_of_toText? {v : String} (h : (Loose.ofText v).toText? = some v) : Verbatim v := by
  unfold Loose.ofText at h
  split at h
  · exact .truth true (Option.some.inj h).symm
  · exact .truth false (Option.some.inj h).symm
  · rename_i htrue hfalse
    cases hint : int64? v with
    | some i =>
      rw [hint] at h
      exact .integer i ((int64?_eq_some_iff v i).mp hint).2.2.1 (Option.some.inj h).symm
    | none =>
      rw [hint] at h
      cases hreal : ofText? v with
      | some r =>
        rw [hreal] at h
        refine .number r (normal_of_ofText? hreal) ?_ (Option.some.inj h).symm
        rintro rfl
        cases hint
      | none =>
        refine .word htrue hfalse fun hnumeral => ?_
        rw [← ofText?_isSome_iff, hreal] at hnumeral
        cases hnumeral

theorem ofText_of_word {v : String} (htruth : Text.lower v ≠ "true" ∧ Text.lower v ≠ "false")
    (hnumeral : ¬ Numeral v) : Loose.ofText v = .text v := by
  have hint : int64? v = none := by
    by_contra hsome
    obtain ⟨i, hi⟩ := Option.ne_none_iff_exists'.mp hsome
    exact hnumeral (numeral_of_int64? hi)
  have hreal : ofText? v = none := by
    rwa [← ofText?_isSome_iff, Bool.not_eq_true, Option.isSome_eq_false_iff,
      Option.isNone_iff_eq_none] at hnumeral
  rw [ofText_eq htruth, hint, hreal]

theorem Verbatim.toText? {v : String} (h : Verbatim v) : (Loose.ofText v).toText? = some v := by
  cases h with
  | word htrue hfalse hnumeral => rw [ofText_of_word ⟨htrue, hfalse⟩ hnumeral, Loose.toText?]
  | truth b h =>
    subst h
    cases b <;> decide +kernel
  | integer i hi h => rw [h, ofText_eq (lower_toString i), int64?_toString hi, Loose.toText?]
  | number r hr hzero h =>
    subst h
    rw [ofText_eq (lower_render hr), ofText?_render hr]
    cases hint : int64? r.render with
    | some i => exact congrArg some (toString_of_int64?_render hr hint hzero)
    | none => rfl

theorem toText?_ofText_eq_iff (v : String) : (Loose.ofText v).toText? = some v ↔ Verbatim v :=
  ⟨verbatim_of_toText?, Verbatim.toText?⟩

instance : DecidablePred Verbatim := fun v => decidable_of_iff _ (toText?_ofText_eq_iff v)

example : Verbatim "1.5" ∧ ¬ Verbatim "1.50" := by decide +kernel

/-- A text with a character that is no ASCII letter, digit, sign or point, such as the slash of a
path or the colon of an address, is left as it is. -/
theorem verbatim_of_mark {v : String} {c : Char} (hc : c ∈ v.toList) (hmark : ¬ NumeralChar c) :
    Verbatim v := by
  have htruth : ¬ (Text.lower v = "true" ∨ Text.lower v = "false") := fun h =>
    hmark (.inr (.inr (letters_of_truth h c hc)))
  obtain ⟨htrue, hfalse⟩ := not_or.mp htruth
  exact .word htrue hfalse fun hnumeral => hmark (hnumeral.chars c hc)

inductive TextSetting where
  | bind
  | logLevel
  | exportDir
  deriving DecidableEq, Repr

namespace TextSetting

def setting : TextSetting → Setting
  | bind => .bind
  | logLevel => .logLevel
  | exportDir => .exportDir

def of : TextSetting → Settings → String
  | bind => Settings.bind
  | logLevel => Settings.logLevel
  | exportDir => Settings.exportDir

theorem read_eq_some_iff (k : TextSetting) (value : Loose) (s : Settings) :
    k.setting.read (some value) = some (k.setting.of s) ↔ value.toText? = some (k.of s) := by
  cases k <;> rfl

theorem read_eq_none_iff (k : TextSetting) (value : Loose) :
    k.setting.read (some value) = none ↔ value.toText? = none := by
  cases k <;> rfl

end TextSetting

namespace Setting

def given? (k : Setting) (environment : List (String × String)) : Option String :=
  (environment.reverse.find? fun v => Text.lower v.1 == environmentStart ++ k.name).map Prod.snd

def Entered (k : Setting) (environment : List (String × String)) : Prop :=
  ∃ entry ∈ environmentEntries environment, Within k.name entry.1

end Setting

instance (k : Setting) (environment : List (String × String)) :
    Decidable (k.Entered environment) :=
  inferInstanceAs (Decidable (∃ entry ∈ _, _))

theorem value?_placed {name : String} (hn : Plain name.toList) {entries : Layer}
    (hpath : ∀ entry ∈ entries, ¬ Within name entry.1) :
    Layer.value? (entries.map placed) name = entries.value? name := by
  have hsays := says_placed hn entries
  generalize Layer.value? (entries.map placed) name = value at hsays
  cases hsays with
  | own h => exact h.symm
  | path hmem h => exact absurd h (hpath _ hmem)
  | silent hown => exact hown.symm

theorem value?_environmentLayer {k : Setting} {environment : List (String × String)}
    (hpath : ¬ k.Entered environment) :
    (environmentLayer environment).value? k.name =
      (k.given? environment).map Loose.ofText := by
  rw [environmentLayer, value?_placed k.plain fun entry hmem h => hpath ⟨entry, hmem, h⟩,
    value?_environmentEntries k.plain, Setting.given?, Option.map_map]
  rfl

theorem exists_toText?_ofText (v : String) : ∃ w, (Loose.ofText v).toText? = some w := by
  unfold Loose.ofText
  split
  · exact ⟨_, rfl⟩
  · exact ⟨_, rfl⟩
  · cases int64? v with
    | some i => exact ⟨_, rfl⟩
    | none => cases ofText? v <;> exact ⟨_, rfl⟩

theorem exists_ofLayers_ok_iff (environment file : Layer) :
    (∃ s, ofLayers environment file = .ok s) ↔
      ∀ k : Setting, k.read (inForce environment file k.name) ≠ none := by
  rw [← not_iff_not]
  push Not
  rw [← exists_error_iff, exists_ofLayers_error_iff]

/-- A text in the environment never makes loading fail, and its setting becomes the text of what it
reads as, which is the given text exactly if reading and writing out leave that as it is. -/
theorem environment_text_kept_iff (k : TextSetting) {files : Files} {path : Option String}
    {entries : Layer} (hfile : fileEntries? files (path.getD defaultPath) = some entries)
    {environment : List (String × String)} {v : String}
    (hgiven : k.setting.given? environment = some v) (hpath : ¬ k.setting.Entered environment) :
    ((∃ s, load files environment path = .ok s) ↔ ∀ other : Setting, other ≠ k.setting →
      other.read (inForce (environmentLayer environment) (entries.map placed) other.name) ≠ none) ∧
    ∀ s, load files environment path = .ok s →
      (Loose.ofText v).toText? = some (k.of s) ∧ (k.of s = v ↔ Verbatim v) ∧
        ∀ screen, (s.forScreen screen).exportDir = s.exportDir := by
  have hvalue : inForce (environmentLayer environment) (entries.map placed) k.setting.name =
      some (Loose.ofText v) := by
    rw [inForce, value?_environmentLayer hpath, hgiven]
    rfl
  rw [load_eq_ofLayers hfile]
  refine ⟨?_, fun s hs => ?_⟩
  · rw [exists_ofLayers_ok_iff]
    refine ⟨fun h other _ => h other, fun h other => ?_⟩
    by_cases hother : other = k.setting
    · obtain ⟨w, hw⟩ := exists_toText?_ofText v
      rw [hother, hvalue, ne_eq, k.read_eq_none_iff, hw]
      exact Option.some_ne_none w
    · exact h other hother
  · have hread := (ofLayers_eq_ok_iff _ _ s).mp hs k.setting
    rw [hvalue, k.read_eq_some_iff] at hread
    refine ⟨hread, ?_, fun screen => rfl⟩
    rw [← toText?_ofText_eq_iff, hread, Option.some.injEq]

theorem environment_text_kept_of_decimal :
    let files := [("site.toml", "export_dir = [1]\nlog_level = '007'")]
    let environment :=
      [("DEMANDSEARCH__MASTER_PAGE_SIZE", "1e1"), ("DEMANDSEARCH__EXPORT_DIR", "0.1")]
    ∃ entries, fileEntries? files "site" = some entries ∧
      Setting.given? .exportDir environment = some "0.1" ∧
      ¬ Setting.Entered .exportDir environment ∧ Verbatim "0.1" ∧
      ∃ s, load files environment (some "site") = .ok s ∧ s.exportDir = "0.1" ∧
        ∀ screen, (s.forScreen screen).exportDir = "0.1" := by
  intro files environment
  have hfile : fileEntries? files ((some "site").getD defaultPath) =
      some [("log_level", .text "007"), ("export_dir", .list)] := by
    decide +kernel
  have hgiven : TextSetting.exportDir.setting.given? environment = some "0.1" := by decide +kernel
  have hpath : ¬ TextSetting.exportDir.setting.Entered environment := by decide +kernel
  have hverbatim : Verbatim "0.1" :=
    .number (.finite ⟨false, 7205759403792794, -56⟩)
      ⟨by decide, by decide, by decide, .inr (by decide)⟩ (by decide) (by decide +kernel)
  obtain ⟨hloads, hkept⟩ := environment_text_kept_iff .exportDir hfile hgiven hpath
  have hothers (other : Setting) : other.read (inForce (environmentLayer environment)
      ([("log_level", .text "007"), ("export_dir", .list)].map placed) other.name) ≠ none := by
    cases other <;> exact Option.isSome_iff_ne_none.mp (by decide +kernel)
  obtain ⟨s, hs⟩ := hloads.mpr fun other _ => hothers other
  obtain ⟨-, hiff, hscreens⟩ := hkept s hs
  have hdir : s.exportDir = "0.1" := hiff.mpr hverbatim
  exact ⟨_, hfile, hgiven, hpath, hverbatim, s, hs, hdir,
    fun screen => (hscreens screen).trans hdir⟩

/-- A directory of digits loses its zeros in front. -/
theorem leading_zeros_lost :
    let environment := [("DEMANDSEARCH__EXPORT_DIR", "007")]
    fileEntries? [] defaultPath = some [] ∧
      Setting.given? .exportDir environment = some "007" ∧
      ¬ Setting.Entered .exportDir environment ∧
      load [] environment none = .ok { usual with exportDir := "7" } ∧
      ∀ screen, (forScreen { usual with exportDir := "7" } screen).exportDir ≠ "007" := by
  refine ⟨rfl, by decide +kernel, by decide +kernel, by decide +kernel, fun screen => ?_⟩
  exact (by decide : "7" ≠ "007")

theorem file_text_kept (k : TextSetting) {files : Files} {path : Option String} {entries : Layer}
    (hfile : fileEntries? files (path.getD defaultPath) = some entries) {v : String}
    (hown : entries.value? k.setting.name = some (.text v))
    (hpath : ∀ entry ∈ entries, ¬ Within k.setting.name entry.1)
    {environment : List (String × String)} (hsilent : k.setting.given? environment = none)
    (hentered : ¬ k.setting.Entered environment) {s : Settings}
    (hs : load files environment path = .ok s) : k.of s = v := by
  rw [load_eq_ofLayers hfile, ofLayers_eq_ok_iff] at hs
  have hread := hs k.setting
  rw [inForce, value?_environmentLayer hentered, hsilent, value?_placed k.setting.plain hpath,
    hown] at hread
  exact (Option.some.inj ((k.read_eq_some_iff _ s).mp hread)).symm

end PlanningSearch.Settings
