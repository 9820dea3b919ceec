import PlanningSearch.Proofs.Query.Checked
import PlanningSearch.Proofs.Query.Composition
import PlanningSearch.Proofs.Screen.Issued

/-!
All search forms are one search. A typed term is one criterion with the token behind the screen's
field name, and the form of product, channel and location is three criteria joined by AND. In any
state of a screen a form does what a search by its criteria does, a form of three blank texts apart.
-/

namespace PlanningSearch

variable {t : Table}

namespace Query

variable {domain : Option Domain} {cs : List Criterion}

theorem canonical_of_permitted (h : ∀ c ∈ cs, c.field ∈ permitted domain) :
    canonical domain cs = .ok (cs.filter fun c => !c.blank) := by
  refine canonical_eq_ok_iff.mpr ⟨List.forall₂_same.mpr fun c _ => ?_, fun c hc => ?_⟩
  · exact ⟨beq_self_eq_true _, rfl, rfl⟩
  · exact h c (List.mem_of_mem_filter hc)

theorem compileChecked_of_permitted (h : ∀ c ∈ cs, c.field ∈ permitted domain) :
    compileChecked domain cs = .ok (compile cs) := by
  rw [compileChecked, canonical_of_permitted h]
  exact congrArg Except.ok (compile_filter cs)

end Query

def Turn.ofQuery : Option String → Turn
  | some query => .search query false
  | none => .empty

theorem Domain.require_of_resolve? {d : Domain} {uiField token : String}
    (h : d.resolve? uiField = some token) : d.require uiField = .ok token := by
  rw [require, h]

def formCriteria (product channel location : String) : List Criterion :=
  [.joined .and "productid" product, .joined .and "channelid" channel,
    .joined .and "locationid" location]

namespace Screen

variable {s : Screen t} {d : Domain}

theorem criteriaTurn_of_permitted {cs : List Criterion}
    (h : ∀ c ∈ cs, c.field ∈ Query.permitted s.source.domain?) :
    s.criteriaTurn cs = .ofQuery (Query.compile cs) := by
  rw [criteriaTurn, Query.compileChecked_of_permitted h]
  cases Query.compile cs <;> rfl

theorem typedTurn_of_resolve? {uiField token : String} (h : d.resolve? uiField = some token)
    (term : String) : typedTurn d uiField term = .ofQuery (Query.fragment token term) := by
  unfold typedTurn
  cases hblank : Text.blank term with
  | true =>
    have hfragment : Query.fragment token term = none :=
      (Query.fragment_eq ⟨token, term, none⟩).trans (if_pos hblank)
    rw [hfragment]
    rfl
  | false =>
    rw [Domain.require_of_resolve? h]
    dsimp only
    cases Query.fragment token term <;> rfl

theorem typedTurn_eq_criteriaTurn (hs : s.source.domain? = some d) {uiField token : String}
    (h : d.resolve? uiField = some token) (term : String) (op : Option Operator) :
    typedTurn d uiField term = s.criteriaTurn [⟨token, term, op⟩] := by
  have htoken : token ∈ d.tokens := d.mem_tokens_of_require (Domain.require_of_resolve? h)
  have hfields : ∀ c ∈ [(⟨token, term, op⟩ : Criterion)],
      c.field ∈ Query.permitted s.source.domain? := by
    rw [hs]
    exact List.forall_mem_singleton.mpr htoken
  rw [typedTurn_of_resolve? h, criteriaTurn_of_permitted hfields, Query.compile_singleton]

theorem criteriaTurn_formCriteria (hs : s.source.domain? = none)
    (product channel location : String) :
    s.criteriaTurn (formCriteria product channel location) =
      .ofQuery (Query.compile (formCriteria product channel location)) := by
  have hregistered : ∀ token ∈ ["productid", "channelid", "locationid"],
      token ∈ Query.registered := by decide
  refine criteriaTurn_of_permitted fun c hc => ?_
  rw [hs]
  have hfield : c.field ∈ (formCriteria product channel location).map Criterion.field :=
    List.mem_map_of_mem hc
  exact hregistered c.field hfield

theorem compile_formCriteria_eq_none_iff (product channel location : String) :
    Query.compile (formCriteria product channel location) = none ↔
      Text.blank product = true ∧ Text.blank channel = true ∧ Text.blank location = true := by
  rw [Query.compile_eq_none_iff]
  simp [formCriteria, Criterion.joined, Criterion.blank]

theorem fieldsTurn_of_query {product channel location query : String}
    (h : Query.compile (formCriteria product channel location) = some query) :
    fieldsTurn product channel location = .search query false := by
  have hform : Query.conjunction
      [("productid", product), ("channelid", channel), ("locationid", location)] = some query := h
  rw [fieldsTurn, hform]

theorem fieldsTurn_of_none {product channel location : String}
    (h : Query.compile (formCriteria product channel location) = none) :
    fieldsTurn product channel location =
      .refuse (.validation "Enter at least one of Product/Channel/Location.") := by
  have hform : Query.conjunction
      [("productid", product), ("channelid", channel), ("locationid", location)] = none := h
  rw [fieldsTurn, hform]

end Screen

namespace Session

variable (backend : Backend) {s : Session t}

section

variable [Text.Order]

theorem step_typed_eq_criteria {d : Domain} (hs : s.screen.source.domain? = some d)
    {uiField token : String} (h : d.resolve? uiField = some token) (term : String)
    (op : Option Operator) :
    s.step backend (.typed d uiField term) = s.step backend (.criteria [⟨token, term, op⟩]) := by
  have htyped : (Event.typed d uiField term).turn? s.screen =
      some (s.screen.criteriaTurn [⟨token, term, op⟩]) :=
    congrArg some (Screen.typedTurn_eq_criteriaTurn hs h term op)
  rw [step_of_turn backend htyped, step_of_turn backend rfl]
  rfl

theorem step_fields_eq_criteria_iff (hs : s.screen.source.domain? = none)
    (product channel location : String) :
    s.step backend (.fields product channel location) =
        s.step backend (.criteria (formCriteria product channel location)) ↔
      ¬ (Text.blank product = true ∧ Text.blank channel = true ∧ Text.blank location = true) := by
  rw [← Screen.compile_formCriteria_eq_none_iff]
  have hcriteria : (Event.criteria (formCriteria product channel location)).turn? s.screen =
      some (.ofQuery (Query.compile (formCriteria product channel location))) :=
    congrArg some (Screen.criteriaTurn_formCriteria hs product channel location)
  rw [step_of_turn backend hcriteria]
  cases hquery : Query.compile (formCriteria product channel location) with
  | none =>
    have hfields : (Event.fields product channel location).turn? s.screen =
        some (.refuse (.validation "Enter at least one of Product/Channel/Location.")) :=
      congrArg some (Screen.fieldsTurn_of_none hquery)
    rw [step_of_turn backend hfields]
    refine iff_of_false (fun heq => ?_) (fun hsome => hsome rfl)
    have hanswer : Answer.flag false = Answer.flag true := congrArg Prod.snd heq
    cases hanswer
  | some query =>
    have hfields : (Event.fields product channel location).turn? s.screen =
        some (.search query false) :=
      congrArg some (Screen.fieldsTurn_of_query hquery)
    rw [step_of_turn backend hfields]
    exact iff_of_true rfl (Option.some_ne_none query)

/-- In whatever state a screen is, also with another search in flight, its forms search by
criteria. On the screen of a domain, a term typed for a field name that stands for a token does in
every respect what the single criterion with that token and term does, whatever its operator. On a
screen without a domain, the form of product, channel and location does what the three criteria
joined by AND do, exactly if the three texts are not all blank. -/
theorem forms_search_by_criteria (s : Session t) :
    (∀ d uiField token, s.screen.source.domain? = some d → d.resolve? uiField = some token →
      ∀ term op, s.step backend (.typed d uiField term) =
        s.step backend (.criteria [⟨token, term, op⟩])) ∧
    (s.screen.source.domain? = none → ∀ product channel location,
      s.step backend (.fields product channel location) =
          s.step backend (.criteria [.joined .and "productid" product,
            .joined .and "channelid" channel, .joined .and "locationid" location]) ↔
        ¬ (Text.blank product = true ∧ Text.blank channel = true ∧
          Text.blank location = true)) :=
  ⟨fun _ _ _ hs h term op => step_typed_eq_criteria backend hs h term op,
    fun hs => step_fields_eq_criteria_iff backend hs⟩

end

theorem forms_search_by_criteria_in_flight :
    let backend : Backend := fun q _ _ => .ok ⟨q, 1, [Key.ofParts "P1" "C1" "L1"]⟩
    let master := (start (.usual .product) (.master .product [])).run backend
      [.prepare "old" "isnew:*No*" false]
    let keys := (start (.usual .forecastElement) (.keys id)).run backend
      [.prepare "old" "isnew:*No*" false]
    let typed : Event (Domain.table .product) := .typed .product " BUSINESSUNIT " " Fast Food "
    let fields : Event .key := .fields "P1" " " "L: 1"
    Domain.product.resolve? " BUSINESSUNIT " = some "businessunit" ∧
    master.step backend typed =
      master.step backend (.criteria [⟨"businessunit", " Fast Food ", none⟩]) ∧
    (master.step backend typed).1.issued = ["businessunit:\"*Fast Food*\""] ∧
    keys.step backend fields = keys.step backend (.criteria [.joined .and "productid" "P1",
      .joined .and "channelid" " ", .joined .and "locationid" "L: 1"]) ∧
    (keys.step backend fields).1.issued = ["productid:*P1* AND locationid:\"*L: 1*\""] ∧
    keys.step backend (.fields "" " " "") ≠ keys.step backend (.criteria [
      .joined .and "productid" "", .joined .and "channelid" " ",
      .joined .and "locationid" ""]) := by
  intro backend master keys typed fields
  have hmaster := (forms_search_by_criteria backend master).1 .product " BUSINESSUNIT "
    "businessunit" rfl
  have hkeys := (forms_search_by_criteria backend keys).2 rfl
  have hresolve : Domain.product.resolve? " BUSINESSUNIT " = some "businessunit" := by decide
  exact ⟨hresolve, hmaster hresolve " Fast Food " none, by decide,
    (hkeys "P1" " " "L: 1").mpr (by decide), by decide,
    fun heq => (hkeys "" " " "").mp heq (by decide)⟩

end Session

end PlanningSearch
