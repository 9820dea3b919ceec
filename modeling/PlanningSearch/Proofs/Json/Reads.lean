import PlanningSearch.Codec
import PlanningSearch.Proofs.Json.Tokens

/-!
Decoders that read what is written. A decoder reads a value if it makes the expected thing of the
value's tokens and leaves whatever stands behind them. Lists and records inherit this from their
items and members, so a decoder that reads a value with the room of a whole text decodes the text
that the value is written as.
-/

namespace PlanningSearch.Json

def Token.opens : Token → Bool
  | .mark m => m == .openArray || m == .openObject
  | _ => true

theorem Value.tokens_eq_cons (v : Value) : ∃ t ts, v.tokens = t :: ts ∧ t.opens = true := by
  cases v with
  | array vs => cases vs <;> exact ⟨_, _, by rw [tokens], rfl⟩
  | object ms => cases ms <;> exact ⟨_, _, by rw [tokens], rfl⟩
  | _ => exact ⟨_, _, by rw [tokens], rfl⟩

theorem Value.length_lt_itemTokens (vs : List Value) : vs.length < (itemTokens vs).length := by
  induction vs with
  | nil => simp [itemTokens]
  | cons v vs ih =>
    simp only [itemTokens, List.length_cons, List.length_append]
    omega

theorem Value.length_lt_memberTokens (ms : List (String × Value)) :
    ms.length < (memberTokens ms).length := by
  induction ms with
  | nil => simp [memberTokens]
  | cons m ms ih =>
    simp only [memberTokens, List.length_cons, List.length_append]
    omega

namespace Decoder

variable {α β σ : Type} {d : Decoder α} {room : Nat} {v : Value} {a : α}

/-- The decoder makes this of the tokens of the value and goes no further. -/
def Reads (d : Decoder α) (room : Nat) (v : Value) (a : α) : Prop :=
  ∀ rest, d room (v.tokens ++ rest) = .ok (a, rest)

theorem Reads.map (h : d.Reads room v a) (f : α → β) : (d.map f).Reads room v (f a) := by
  intro rest
  rw [Decoder.map, h rest]
  rfl

theorem reads_text (room : Nat) (s : String) : text.Reads room (.text s) s := by
  intro rest
  simp [Value.tokens, text, textAs, Decoder.map, chars, Except.map]

theorem reads_int {least most i : Int} (h : least ≤ i ∧ i ≤ most) (wanted : String) (room : Nat) :
    (int least most wanted).Reads room (.number (.int i)) i := by
  intro rest
  simp [Value.tokens, int, h]

theorem reads_word (wanted : String) (room : Nat) (n : UInt64) :
    (word wanted).Reads room (.nat n.toNat) n := by
  have hrange : (0 : Int) ≤ n.toNat ∧ (n.toNat : Int) ≤ ((UInt64.size - 1 : Nat) : Int) := by
    have hlt := n.toNat_lt
    simp only [UInt64.size]
    omega
  have hread := (reads_int hrange wanted room).map fun i => UInt64.ofNat i.toNat
  rw [Int.toNat_natCast, UInt64.ofNat_toNat] at hread
  exact hread

theorem Reads.optional {s : String} (h : d.Reads room (.text s) a) :
    (Decoder.optional d).Reads room (.text s) (some a) := by
  intro rest
  have hsome := h.map some rest
  rw [Value.tokens] at hsome ⊢
  exact hsome

theorem reads_variant {variants : List (String × α)} {name : String}
    (h : (variants.find? fun x => x.1 == name) = some (name, a)) (room : Nat) :
    (variant variants).Reads room (.text name) a := by
  intro rest
  have hof : variantOf variants name = .ok a := by rw [variantOf, h]
  simp [Value.tokens, variant, textAs, Decoder.map, chars, Except.map, bind, Except.bind, hof, pure,
    Except.pure]

theorem item_first {t : Token} (h : t.opens = true) (d : Decoder α) (room : Nat)
    (ts : List Token) : item d true room (t :: ts) = d.map some room (t :: ts) := by
  cases t with
  | mark m =>
    cases m with
    | openArray | openObject => rfl
    | _ => cases h
  | _ => rfl

theorem item_next {t : Token} (h : t.opens = true) (d : Decoder α) (room : Nat)
    (ts : List Token) : item d false room (.mark .comma :: t :: ts) = d.map some room (t :: ts) := by
  cases t with
  | mark m =>
    cases m with
    | openArray | openObject => rfl
    | _ => cases h
  | _ => rfl

variable {encode : α → Value}

theorem items_itemTokens {as : List α} (h : ∀ a ∈ as, d.Reads room (encode a) a) {fuel : Nat}
    (hfuel : as.length < fuel) (rest : List Token) :
    items d room fuel false (Value.itemTokens (as.map encode) ++ rest) = .ok (as, rest) := by
  induction as generalizing fuel with
  | nil =>
    cases fuel with
    | zero => cases hfuel
    | succ fuel => simp [Value.itemTokens, items, item, closeArray, Except.map]
  | cons a as ih =>
    cases fuel with
    | zero => cases hfuel
    | succ fuel =>
      obtain ⟨ha, has⟩ := List.forall_mem_cons.mp h
      obtain ⟨t, ts, htokens, hopens⟩ := (encode a).tokens_eq_cons
      have hread := ha.map some (Value.itemTokens (as.map encode) ++ rest)
      have hrest := ih has (Nat.lt_of_succ_lt_succ hfuel)
      rw [htokens, List.cons_append] at hread
      rw [List.map_cons, Value.itemTokens, List.cons_append, List.append_assoc, htokens,
        List.cons_append, items, item_next hopens, hread]
      simp only [hrest]
      rfl

theorem reads_list {as : List α} (h : ∀ a ∈ as, d.Reads room (encode a) a) :
    (list d).Reads (room + 1) (.array (as.map encode)) as := by
  intro rest
  cases as with
  | nil => simp [Value.tokens, list, items, item, closeArray, Except.map]
  | cons a as =>
    obtain ⟨ha, has⟩ := List.forall_mem_cons.mp h
    obtain ⟨t, ts, htokens, hopens⟩ := (encode a).tokens_eq_cons
    have hread := ha.map some (Value.itemTokens (as.map encode) ++ rest)
    -- the fuel counts tokens, and each item takes at least its comma
    have hlength := Value.length_lt_itemTokens (as.map encode)
    rw [List.length_map] at hlength
    rw [htokens, List.cons_append] at hread
    rw [List.map_cons, Value.tokens, List.cons_append, List.append_assoc, htokens,
      List.cons_append, list, items, item_first hopens, hread]
    simp only
    rw [items_itemTokens has (Nat.lt_of_lt_of_le hlength (by simp; omega)) rest]
    rfl

/-- The members of an object, read one after the other, each into a field that is still free. -/
inductive Fills (slots : List (Slot σ)) (room : Nat) : σ → List (String × Value) → σ → Prop where
  | nil (acc : σ) : Fills slots room acc [] acc
  | cons {acc acc' : σ} {k : String} {v : Value} {ms : List (String × Value)} {s : Slot σ}
      {f : σ → σ} (slot : (slots.find? fun s => s.names.contains k) = some s)
      (free : s.isSet acc = false) (read : s.read.Reads room v f)
      (further : Fills slots room (f acc) ms acc') : Fills slots room acc ((k, v) :: ms) acc'

theorem name_first (k : String) (room : Nat) (ts : List Token) :
    name true room (.text (.ok k.toList) none :: ts) = .ok (some k, ts) := by
  simp [name, text, textAs, Decoder.map, chars, Except.map]

theorem name_next (k : String) (room : Nat) (ts : List Token) :
    name false room (.mark .comma :: .text (.ok k.toList) none :: ts) = .ok (some k, ts) := by
  simp [name, text, textAs, Decoder.map, chars, Except.map]

variable {slots : List (Slot σ)} {acc acc' : σ} {ms : List (String × Value)}

theorem complete_of_isSet (h : ∀ s ∈ slots, s.isSet acc = true) : complete slots acc = .ok acc := by
  induction slots with
  | nil => rfl
  | cons s ss ih =>
    obtain ⟨hs, hss⟩ := List.forall_mem_cons.mp h
    rw [complete, if_pos hs, ih hss]

theorem Fills.namedFields (h : Fills slots room acc ms acc') {fuel : Nat}
    (hfuel : ms.length < fuel) (rest : List Token) :
    namedFields slots room fuel false acc (Value.memberTokens ms ++ rest) = .ok (acc', rest) := by
  induction h generalizing fuel with
  | nil acc =>
    cases fuel with
    | zero => cases hfuel
    | succ fuel => simp [Value.memberTokens, Decoder.namedFields, name]
  | @cons acc acc' k v ms s f slot free read _ ih =>
    cases fuel with
    | zero => cases hfuel
    | succ fuel =>
      have hread := read (Value.memberTokens ms ++ rest)
      have hrest := ih (Nat.lt_of_succ_lt_succ hfuel)
      simp only [Value.memberTokens, List.cons_append, List.append_assoc, Decoder.namedFields,
        name_next, slot, free, colon, Except.bind, hread, hrest]
      rfl

theorem Fills.reads_record {empty : σ} (h : Fills slots room empty ms acc)
    (hcomplete : complete slots acc = .ok acc') (recordName : String) :
    (record recordName slots empty).Reads (room + 1) (.object ms) acc' := by
  intro rest
  cases h with
  | nil =>
    simp [Value.tokens, record, Decoder.namedFields, name, hcomplete, Except.map]
  | @cons _ _ k v ms s f slot free read further =>
    have hread := read (Value.memberTokens ms ++ rest)
    have hlength := Value.length_lt_memberTokens ms
    simp only [Value.tokens, List.cons_append, List.append_assoc, record, Decoder.namedFields,
      name_first, slot, free, colon, Except.bind, hread]
    rw [further.namedFields (Nat.lt_of_lt_of_le hlength (by simp; omega)) rest]
    simp only [Bool.false_eq_true, if_false, hcomplete]
    rfl

theorem value_reads_text (room : Nat) (s : String) : value.Reads room (.text s) (.text s) := by
  intro rest
  simp [Value.tokens, value]

theorem value_reads_bool (room : Nat) (b : Bool) : value.Reads room (.bool b) (.bool b) := by
  intro rest
  simp [Value.tokens, value]

def setMembers (acc ms : List (String × Value)) : List (String × Value) :=
  ms.foldl (fun acc m => Value.insertMember m.1 m.2 acc) acc

theorem members_memberTokens {d : Decoder Value} {ms : List (String × Value)}
    (h : ∀ m ∈ ms, d.Reads room m.2 m.2) {fuel : Nat} (hfuel : ms.length < fuel)
    (acc : List (String × Value)) (rest : List Token) :
    members d room fuel false acc (Value.memberTokens ms ++ rest) =
      .ok (setMembers acc ms, rest) := by
  induction ms generalizing acc fuel with
  | nil =>
    cases fuel with
    | zero => cases hfuel
    | succ fuel => simp [Value.memberTokens, members, name, setMembers]
  | cons m ms ih =>
    cases fuel with
    | zero => cases hfuel
    | succ fuel =>
      obtain ⟨hm, hms⟩ := List.forall_mem_cons.mp h
      have hread := hm (Value.memberTokens ms ++ rest)
      have hrest := ih hms (Nat.lt_of_succ_lt_succ hfuel) (Value.insertMember m.1 m.2 acc)
      simp only [Value.memberTokens, List.cons_append, List.append_assoc, members, name_next, colon,
        hread, hrest]
      rfl

theorem value_reads_object {ms : List (String × Value)}
    (h : ∀ m ∈ ms, value.Reads room m.2 m.2) :
    value.Reads (room + 1) (.object ms) (.object (setMembers [] ms)) := by
  intro rest
  cases ms with
  | nil => simp [Value.tokens, value, members, name, setMembers, Except.map]
  | cons m ms =>
    obtain ⟨hm, hms⟩ := List.forall_mem_cons.mp h
    have hread := hm (Value.memberTokens ms ++ rest)
    have hlength := Value.length_lt_memberTokens ms
    have hrest {fuel : Nat} (hfuel : ms.length < fuel) :
        members (fun _ => value room) room fuel false (Value.insertMember m.1 m.2 [])
          (Value.memberTokens ms ++ rest) = .ok (setMembers [] (m :: ms), rest) :=
      members_memberTokens (d := fun _ => value room) hms hfuel _ rest
    simp only [Value.tokens, List.cons_append, List.append_assoc, value, members, name_first, colon,
      hread]
    rw [hrest (Nat.lt_of_lt_of_le hlength (by simp; omega))]
    rfl

theorem find?_insertMember (k k' : String) (v : Value) (ms : List (String × Value)) :
    ((Value.insertMember k v ms).find? fun m => m.1 == k') =
      if k = k' then some (k, v) else ms.find? fun m => m.1 == k' := by
  induction ms with
  | nil => by_cases hk : k = k' <;> simp [Value.insertMember, hk]
  | cons m ms ih =>
    obtain ⟨name, w⟩ := m
    rw [Value.insertMember]
    split
    · by_cases hk : k = k' <;> simp [hk]
    · split
      · rename_i heq
        subst heq
        by_cases hk : k = k' <;> simp [hk]
      · rename_i hne
        rw [List.find?_cons, List.find?_cons, ih]
        by_cases hname : name = k'
        · have hk : k ≠ k' := fun h => hne (h.trans hname.symm)
          simp [hname, hk]
        · simp only [beq_false_of_ne hname]

theorem member?_insertMember (k k' : String) (v : Value) (ms : List (String × Value)) :
    (Value.object (Value.insertMember k v ms)).member? k' =
      if k = k' then some v else (Value.object ms).member? k' := by
  rw [Value.member?, find?_insertMember]
  split <;> rfl

theorem member?_setMembers_of_notMem {k : String} {ms : List (String × Value)}
    (h : k ∉ ms.map Prod.fst) (acc : List (String × Value)) :
    (Value.object (setMembers acc ms)).member? k = (Value.object acc).member? k := by
  induction ms generalizing acc with
  | nil => rfl
  | cons m ms ih =>
    rw [List.map_cons, List.mem_cons, not_or] at h
    obtain ⟨hm, hms⟩ := h
    rw [setMembers, List.foldl_cons, ← setMembers, ih hms, member?_insertMember, if_neg (Ne.symm hm)]

theorem member?_setMembers {k : String} {v : Value} {ms : List (String × Value)}
    (hnames : (ms.map Prod.fst).Nodup) (h : (k, v) ∈ ms) (acc : List (String × Value)) :
    (Value.object (setMembers acc ms)).member? k = some v := by
  induction ms generalizing acc with
  | nil => cases h
  | cons m ms ih =>
    obtain ⟨hm, hms⟩ := List.nodup_cons.mp hnames
    rw [setMembers, List.foldl_cons, ← setMembers]
    rcases List.mem_cons.mp h with rfl | hmem
    · rw [member?_setMembers_of_notMem hm, member?_insertMember, if_pos rfl]
    · exact ih hms hmem _

theorem Reads.run_render (h : d.Reads openBrackets v a) (hv : v.Whole) : d.run v.render = .ok a := by
  have hread := h []
  rw [List.append_nil] at hread
  rw [run, Value.tokens_render hv, hread]

end Decoder

end PlanningSearch.Json
