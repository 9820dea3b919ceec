import PlanningSearch.Service.Routes
import PlanningSearch.Proofs.Codec
import PlanningSearch.Proofs.Query.Applicability

/-!
The routes say what the library says. Criteria that are posted get the answer that compiling them
gives, and a query handed out for a domain, posted back with that domain, is found to apply to it.
The query leaves and comes back as JSON text, so both ways lead through the codec.
-/

namespace PlanningSearch

open Web Json

theorem ApplicableRequest.decoder_reads (room : Nat) (r : ApplicableRequest) :
    decoder.Reads (room + 1) (.object [("domain", r.domain.toJson), ("query", .text r.query)]) r := by
  obtain ⟨domain, query⟩ := r
  have hdomain := (domain.decoder_reads room).map fun x (d : Draft) => { d with domain := some x }
  have hquery := (Decoder.reads_text room query).map fun s (d : Draft) => { d with query := some s }
  have hfills : Decoder.Fills slots room {} [("domain", domain.toJson), ("query", .text query)]
      ⟨some domain, some query⟩ :=
    .cons rfl rfl hdomain (.cons rfl rfl hquery (.nil _))
  exact (hfills.reads_record rfl "ApplicableRequest").map fun d =>
    (⟨d.domain.getD .product, d.query.getD ""⟩ : ApplicableRequest)

namespace Service

structure Posts (path : String) (r : HttpRequest) : Prop where
  method : r.method = "POST"
  path : pathOf r.target = path
  json : declaresJson r = true

/-- The body of the request starts with a value of this reading. -/
def Carries (d : Decoder α) (r : HttpRequest) (a : α) : Prop :=
  ∃ rest, d Decoder.openBrackets (tokens r.body) = .ok (a, rest)

def decoded (reply : HttpResponse) : Except Failure Value := Decoder.value.run reply.body

def applicability (d : Domain) (query : String) : Value :=
  .object [("domain", d.toJson), ("query", .text query)]

section Requests

variable {r : HttpRequest}

theorem withBody_of_carries {d : Decoder α} {a : α} (hjson : declaresJson r = true)
    (h : Carries d r a) (f : α → HttpResponse) : withBody r d f = f a := by
  obtain ⟨rest, hread⟩ := h
  simp [withBody, hjson, hread]

theorem Posts.answer_compile {q : CompileRequest} (h : Posts "/v1/compile" r)
    (hq : Carries CompileRequest.decoder r q) : answer r = answerCompile q := by
  have hroute : Route.ofPath? (pathOf r.target) = some .compile := by rw [h.path]; rfl
  have hanswer := withBody_of_carries h.json hq answerCompile
  simp [answer, h.method, hroute, Route.methods, Route.answer, hanswer]

theorem Posts.answer_applicable {q : ApplicableRequest} (h : Posts "/v1/applicable" r)
    (hq : Carries ApplicableRequest.decoder r q) : answer r = answerApplicable q := by
  have hroute : Route.ofPath? (pathOf r.target) = some .applicable := by rw [h.path]; rfl
  have hanswer := withBody_of_carries h.json hq answerApplicable
  simp [answer, h.method, hroute, Route.methods, Route.answer, hanswer]

theorem carries_applicability {d : Domain} {query : String}
    (h : r.body = (applicability d query).render) :
    Carries ApplicableRequest.decoder r ⟨d, query⟩ := by
  have hwhole : (applicability d query).Whole := by
    refine .object fun m hm => ?_
    simp only [List.mem_cons, List.not_mem_nil, or_false] at hm
    rcases hm with rfl | rfl <;> exact .text _
  have hreads := ApplicableRequest.decoder_reads 126 ⟨d, query⟩ []
  rw [List.append_nil] at hreads
  refine ⟨[], ?_⟩
  rw [h, Value.tokens_render hwhole]
  exact hreads

end Requests

section Replies

def Scalar (v : Value) : Prop := (∃ s, v = .text s) ∨ ∃ b, v = .bool b

theorem Scalar.whole {v : Value} (h : Scalar v) : v.Whole := by
  obtain ⟨s, rfl⟩ | ⟨b, rfl⟩ := h
  · exact .text s
  · exact .bool b

theorem Scalar.reads {v : Value} (h : Scalar v) (room : Nat) : Decoder.value.Reads room v v := by
  obtain ⟨s, rfl⟩ | ⟨b, rfl⟩ := h
  · exact Decoder.value_reads_text room s
  · exact Decoder.value_reads_bool room b

variable {ms : List (String × Option Value)}

theorem exists_decoded (hscalar : ∀ m ∈ ms, ∀ v ∈ m.2, Scalar v) (hnames : (ms.map Prod.fst).Nodup)
    (status : Nat) : ∃ v, decoded (respond status (presentMembers ms)) = .ok v ∧
      ∀ m ∈ ms, v.member? m.1 = m.2 := by
  have hpresent : ∀ m ∈ present ms, Scalar m.2 := fun m hm =>
    hscalar _ (mem_present.mp hm) _ rfl
  have hreads := Decoder.value_reads_object fun m hm => (hpresent m hm).reads 126
  have hwhole := whole_presentMembers fun m hm v hv => (hscalar m hm v hv).whole
  refine ⟨_, hreads.run_render hwhole, fun m hm => ?_⟩
  obtain ⟨name, v | v⟩ := m
  · rw [Decoder.member?_setMembers_of_notMem ?_ []]
    · rfl
    · -- a member of this name would be one that is present
      intro hname
      obtain ⟨⟨name', v⟩, hmem, rfl⟩ := List.mem_map.mp hname
      cases List.inj_on_of_nodup_map hnames (mem_present.mp hmem) hm rfl
  · exact Decoder.member?_setMembers (present_names_sublist.nodup hnames) (mem_present.mpr hm) []

theorem exists_decoded_compile (status : Nat) (c : CompileResponse) :
    ∃ v, decoded (respond status c.toJson) = .ok v ∧
      v.member? "query" = c.query.map .text ∧ v.member? "error" = c.error.map .text := by
  have hscalar : ∀ m ∈ [("status", some (Value.text c.status)), ("query", c.query.map .text),
      ("error", c.error.map .text)], ∀ v ∈ m.2, Scalar v := by
    simp [Scalar]
  obtain ⟨v, hv, hmembers⟩ := exists_decoded hscalar (by simp) status
  rw [List.forall_mem_cons, List.forall_mem_cons, List.forall_mem_cons] at hmembers
  exact ⟨v, hv, hmembers.2.1, hmembers.2.2.1⟩

theorem exists_decoded_applicable (status : Nat) (a : ApplicableResponse) :
    ∃ v, decoded (respond status a.toJson) = .ok v ∧
      v.member? "applicable" = some (.bool a.applicable) ∧
      v.member? "message" = a.message.map .text := by
  have hscalar : ∀ m ∈ [("applicable", some (Value.bool a.applicable)),
      ("message", a.message.map .text)], ∀ v ∈ m.2, Scalar v := by
    simp [Scalar]
  obtain ⟨v, hv, hmembers⟩ := exists_decoded hscalar (by simp) status
  rw [List.forall_mem_cons, List.forall_mem_cons] at hmembers
  exact ⟨v, hv, hmembers.1, hmembers.2.1⟩

end Replies

variable {r : HttpRequest} {q : CompileRequest}

theorem Posts.reply_of_ok {query : Option String} (h : Posts "/v1/compile" r)
    (hq : Carries CompileRequest.decoder r q)
    (hcompiled : Query.compileChecked q.domain q.criteria = .ok query) :
    (answer r).status = 200 ∧
      ∃ v, decoded (answer r) = .ok v ∧ v.member? "query" = query.map .text := by
  have hanswer : answer r = respond 200 (CompileResponse.done query).toJson := by
    rw [h.answer_compile hq, answerCompile, CompileRequest.answer, hcompiled]
    rfl
  obtain ⟨v, hv, hquery, -⟩ := exists_decoded_compile 200 (.done query)
  rw [hanswer]
  exact ⟨rfl, v, hv, hquery⟩

theorem Posts.reply_of_error {e : SearchError} (h : Posts "/v1/compile" r)
    (hq : Carries CompileRequest.decoder r q)
    (hcompiled : Query.compileChecked q.domain q.criteria = .error e) :
    (answer r).status = 400 ∧ ∃ v, decoded (answer r) = .ok v ∧ v.member? "query" = none ∧
      v.member? "error" = some (.text e.userMessage) := by
  have hanswer : answer r = respond 400 (CompileResponse.refused e).toJson := by
    rw [h.answer_compile hq, answerCompile, CompileRequest.answer, hcompiled]
    rfl
  rw [hanswer]
  exact ⟨rfl, exists_decoded_compile 400 (.refused e)⟩

theorem Posts.compiled_of_decoded {v : Value} {query : String} (h : Posts "/v1/compile" r)
    (hq : Carries CompileRequest.decoder r q) (hv : decoded (answer r) = .ok v)
    (hquery : v.member? "query" = some (.text query)) :
    Query.compileChecked q.domain q.criteria = .ok (some query) := by
  cases hcompiled : Query.compileChecked q.domain q.criteria with
  | ok compiled =>
    obtain ⟨-, v', hv', hmember⟩ := h.reply_of_ok hq hcompiled
    cases hv.symm.trans hv'
    rw [hquery] at hmember
    obtain ⟨text, rfl, htext⟩ := Option.map_eq_some_iff.mp hmember.symm
    cases htext
    rfl
  | error e =>
    obtain ⟨-, v', hv', hnone, -⟩ := h.reply_of_error hq hcompiled
    cases hv.symm.trans hv'
    rw [hquery] at hnone
    cases hnone

/-- Criteria that are posted are answered as compiling them answers, with the query or with the
message of the error. A query that is handed out for a domain reads back as itself when it is posted
with that domain, and applies to it. -/
theorem routes_agree (h : Posts "/v1/compile" r) (hq : Carries CompileRequest.decoder r q) :
    ((answer r).status = 200 ↔ ∃ query, Query.compileChecked q.domain q.criteria = .ok query) ∧
    (∀ query, Query.compileChecked q.domain q.criteria = .ok query →
      ∃ v, decoded (answer r) = .ok v ∧ v.member? "query" = query.map .text) ∧
    (∀ e, Query.compileChecked q.domain q.criteria = .error e → (answer r).status = 400 ∧
      ∃ v, decoded (answer r) = .ok v ∧ v.member? "error" = some (.text e.userMessage)) ∧
    ∀ d v query, q.domain = some d → decoded (answer r) = .ok v →
      v.member? "query" = some (.text query) → ∀ r', Posts "/v1/applicable" r' →
        (r'.body = (applicability d query).render →
          Carries ApplicableRequest.decoder r' ⟨d, query⟩) ∧
        (Carries ApplicableRequest.decoder r' ⟨d, query⟩ → (answer r').status = 200 ∧
          ∃ v', decoded (answer r') = .ok v' ∧ v'.member? "applicable" = some (.bool true) ∧
            v'.member? "message" = none) := by
  refine ⟨⟨fun hstatus => ?_, fun ⟨query, hcompiled⟩ => (h.reply_of_ok hq hcompiled).1⟩,
    fun query hcompiled => (h.reply_of_ok hq hcompiled).2, fun e hcompiled => ?_, ?_⟩
  · cases hcompiled : Query.compileChecked q.domain q.criteria with
    | ok query => exact ⟨query, rfl⟩
    | error e =>
      have hrefused := (h.reply_of_error hq hcompiled).1
      exact absurd (hrefused.symm.trans hstatus) (by decide)
  · obtain ⟨hstatus, v, hv, -, hmessage⟩ := h.reply_of_error hq hcompiled
    exact ⟨hstatus, v, hv, hmessage⟩
  · intro d v query hd hv hquery r' h'
    refine ⟨carries_applicability, fun hcarries => ?_⟩
    have hcompiled := h.compiled_of_decoded hq hv hquery
    rw [hd] at hcompiled
    have happlies : d.appliesTo query = true := Query.appliesTo_of_compileChecked_some hcompiled
    obtain ⟨v', hv', happlicable, hmessage⟩ :=
      exists_decoded_applicable 200 (ApplicableRequest.answer ⟨d, query⟩)
    rw [h'.answer_applicable hcarries]
    simp only [ApplicableRequest.answer, happlies] at happlicable hmessage
    exact ⟨rfl, v', hv', happlicable, hmessage⟩

theorem routes_agree_on_quoted_value :
    let ask : HttpRequest := ⟨"POST", "/v1/compile", [("Content-Type", "application/json")],
      "\x7b\"domain\":\"product\",\"criteria\":[" ++
        "\x7b\"key\":\"PRODUCTID\",\"value\":\" a \\\"b\\\" \"\x7d]\x7d"⟩
    let asked : CompileRequest := ⟨some .product, [⟨"PRODUCTID", " a \"b\" ", none⟩]⟩
    let query := "productid:\"*a \\\"b\\\"*\""
    let check : HttpRequest := ⟨"POST", "/v1/applicable", [("Content-Type", "application/json")],
      (applicability .product query).render⟩
    Posts "/v1/compile" ask ∧ Carries CompileRequest.decoder ask asked ∧
    (∃ v, decoded (answer ask) = .ok v ∧ v.member? "query" = some (.text query)) ∧
    Posts "/v1/applicable" check ∧ Carries ApplicableRequest.decoder check ⟨.product, query⟩ ∧
    ∃ v, decoded (answer check) = .ok v ∧ v.member? "applicable" = some (.bool true) ∧
      v.member? "message" = none := by
  intro ask asked query check
  have hask : Posts "/v1/compile" ask := ⟨rfl, by decide, by decide⟩
  have hasked : Carries CompileRequest.decoder ask asked := ⟨[], by cbv⟩
  have hcheck : Posts "/v1/applicable" check := ⟨rfl, by decide, by decide⟩
  have hcompiled : Query.compileChecked asked.domain asked.criteria = .ok (some query) := by decide
  obtain ⟨-, hok, -, happlicable⟩ := routes_agree hask hasked
  obtain ⟨v, hv, hquery⟩ := hok _ hcompiled
  obtain ⟨hcarries, hreply⟩ := happlicable .product v query rfl hv hquery check hcheck
  exact ⟨hask, hasked, ⟨v, hv, hquery⟩, hcheck, hcarries rfl, (hreply (hcarries rfl)).2⟩

end Service

end PlanningSearch
