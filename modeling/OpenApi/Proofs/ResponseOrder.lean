import OpenApi.Proofs.Kept
import OpenApi.Proofs.Outcomes
import OpenApi.Proofs.ResponseCodes

set_option autoImplicit false

/-! # The responses of an operation, and its result

Whatever else an operation declares, as long as it can be followed and built, its responses decide how
collecting it turns out: it fails for the first key that denotes no code, and otherwise the responses
stand in the order of their codes. That order makes the result of a finished operation the one that
`ResponseCode.IsResult` says, whatever the order in which the responses are declared:
`DeclaredOperation.responses_ordered`. -/

namespace OpenApi

/-! ## Operations that can be followed and built -/

/-- The schema of the preferred content builds. -/
def Components.BuildsContent (c : Components) (content : Content) : Prop :=
  ∀ mediaType media, content.preferred? = some (mediaType, media) → ∀ s ∈ media.schema, c.Builds s

namespace DeclaredOperation

/-- The references of a declared operation lead somewhere, and the schemas found there build. -/
structure Builds (c : Components) (d : DeclaredOperation) : Prop where
  parameters : ∃ specs, mergedParameters c d.shared d.spec.parameters = .ok specs ∧
    ∀ p ∈ specs, ∀ s ∈ p.schema, c.Builds s
  body : ∀ r ∈ d.spec.requestBody, ∃ body, c.resolveRequestBody r = .ok body ∧
    c.BuildsContent body.content
  responses : ∀ entry ∈ d.spec.responses, ∃ spec, c.resolveResponse entry.2 = .ok spec ∧
    c.BuildsContent spec.content

/-- Collecting a declared operation. -/
def collect (c : Components) (options : Options) (d : DeclaredOperation) : Build Operation :=
  Build.operation c options d.path d.method d.shared d.spec

/-- The name under which a declared operation is collected. -/
def name (options : Options) (d : DeclaredOperation) : String :=
  Build.operationName options.naming d.method d.path d.spec.operationId

/-- A response is declared for a code. -/
def Declares (d : DeclaredOperation) (code : ResponseCode) : Prop :=
  ∃ key ∈ Entries.keys d.spec.responses, ResponseCode.Denotes key code

/-- A key that denotes no code, and those before it do. -/
def FirstInvalid (d : DeclaredOperation) (key : String) : Prop :=
  ∃ before after, Entries.keys d.spec.responses = before ++ key :: after ∧
    (∀ k ∈ before, ∃ code, ResponseCode.Denotes k code) ∧ ∀ code, ¬ ResponseCode.Denotes key code

/-- A response is the one declared by an entry. -/
structure Declared (c : Components) (entry : String × RefOr ResponseSpec) (response : Response) :
    Prop where
  code : ResponseCode.Denotes entry.1 response.code
  spec : ∃ spec, c.resolveResponse entry.2 = .ok spec ∧
    (response.model = none ↔ spec.content.preferred? = none) ∧
    response.mediaTypes = Entries.keys spec.content ∧ response.description = spec.description ∧
    response.vendorExtensions = spec.extra.extensions

/-- Some responses are the declared ones in the order of their codes. -/
structure OrdersResponses (c : Components) (d : DeclaredOperation) (responses : List Response) :
    Prop where
  declared : ∃ inOrder, responses.Perm inOrder ∧ List.Forall₂ (Declared c) d.spec.responses inOrder
  ascending : responses.Pairwise fun a b => a.code = b.code ∨ a.code.Before b.code

/-- An operation comes out when a declared one is collected and then finished among others. -/
def Finishes (c : Components) (d : DeclaredOperation) (op : Operation) : Prop :=
  ∃ options b collected b', Build.run (d.collect c options) b = (.ok collected, b') ∧
    ∃ (r : Registry) (verify : Bool) (ops finished : List Operation) (i : Nat),
      (Operation.finalize r verify ops).value = .ok finished ∧
      ops[i]? = some collected ∧ finished[i]? = some op

end DeclaredOperation

/-! ## How collecting turns out -/

namespace Build

variable {c : Components} {options : Options} {b b' : Builder} {d : DeclaredOperation}

theorem outcome_occurrenceOrAny {name hint : String} {s : Option SchemaOrRef}
    (h : ∀ t ∈ s, c.Builds t) (b : Builder) : outcome (occurrenceOrAny c name hint s) b = .ok () := by
  cases s with
  | none => rfl
  | some s => exact (h s rfl).outcome name hint b

theorem outcome_parameter {scope : String} {p : ParameterSpec} (h : ∀ s ∈ p.schema, c.Builds s)
    (b : Builder) : outcome (parameter c scope p) b = .ok () :=
  outcome_bind_of_ok (outcome_occurrenceOrAny h b) fun _ _ _ => rfl

theorem outcome_body {scope : String} {declared : Option (RefOr RequestBody)}
    (h : ∀ r ∈ declared, ∃ body, c.resolveRequestBody r = .ok body ∧ c.BuildsContent body.content)
    (b : Builder) : outcome (body c scope declared) b = .ok () := by
  cases declared with
  | none => rfl
  | some r =>
      obtain ⟨spec, hspec, hcontent⟩ := h r rfl
      refine (outcome_resolving_bind hspec b).trans ?_
      rw [bodyOf]
      split
      · rfl
      · next mediaType media hsome =>
          exact outcome_bind_of_ok (outcome_occurrenceOrAny (hcontent _ _ hsome) b) fun _ _ _ => rfl

/-- A response whose key denotes a code is built. -/
theorem outcome_response {scope name key : String} {r : RefOr ResponseSpec} {code : ResponseCode}
    (hkey : ResponseCode.Denotes key code)
    (h : ∃ spec, c.resolveResponse r = .ok spec ∧ c.BuildsContent spec.content) (b : Builder) :
    outcome (response c scope name key r) b = .ok () := by
  obtain ⟨spec, hspec, hcontent⟩ := h
  rw [response, ResponseCode.ofKey?_eq_some_iff.2 hkey]
  refine (outcome_resolving_bind hspec b).trans (outcome_bind_of_ok ?_ fun _ _ _ => rfl)
  rw [responseModel]
  split
  · rfl
  · next hsome =>
      exact outcome_bind_of_ok (outcome_occurrenceOrAny (hcontent _ _ hsome) b) fun _ _ _ => rfl

/-- Any other response is refused. -/
theorem outcome_response_invalid {scope name key : String} {r : RefOr ResponseSpec}
    (hkey : ∀ code, ¬ ResponseCode.Denotes key code) (b : Builder) :
    outcome (response c scope name key r) b = .error (.invalidResponseCode name key) := by
  have hnone : ResponseCode.ofKey? key = none :=
    Option.eq_none_iff_forall_ne_some.2 fun code hcode =>
      hkey code (ResponseCode.ofKey?_eq_some_iff.1 hcode)
  rw [response, hnone]
  rfl

/-- Where all else builds, an operation turns out as its responses do. -/
theorem outcome_collect (h : d.Builds c) {r : Except BuildError Unit}
    (hresponses : ∀ b, outcome (d.spec.responses.mapM fun e =>
      response c (Text.pascalCase (d.name options)) (d.name options) e.1 e.2) b = r) (b : Builder) :
    outcome (d.collect c options) b = r := by
  obtain ⟨specs, hspecs, hschemas⟩ := h.parameters
  have hparameters := outcome_mapM_ok (f := parameter c (Text.pascalCase (d.name options)))
    fun p hp => outcome_parameter (hschemas p hp)
  refine (outcome_resolving_bind hspecs b).trans ?_
  refine outcome_bind_of_ok (hparameters b) fun parameters b₁ _ => ?_
  refine outcome_bind_of_ok (outcome_body h.body b₁) fun bodies b₂ _ => ?_
  exact (outcome_bind_right (fun _ _ => rfl) b₂).trans (hresponses b₂)

end Build

/-! ## Keys in order -/

namespace DeclaredOperation

variable {c : Components} {options : Options} {d : DeclaredOperation}

/-- Some key is the first that denotes no code, unless all denote one. -/
theorem valid_or_firstInvalid (d : DeclaredOperation) :
    (∀ key ∈ Entries.keys d.spec.responses, ∃ code, ResponseCode.Denotes key code) ∨
      ∃ key, d.FirstInvalid key := by
  unfold FirstInvalid
  induction Entries.keys d.spec.responses with
  | nil => exact .inl (by simp)
  | cons key rest ih =>
      by_cases hkey : ∃ code, ResponseCode.Denotes key code
      · rcases ih with hall | ⟨key', before, after, rfl, hbefore, hinvalid⟩
        · exact .inl (List.forall_mem_cons.2 ⟨hkey, hall⟩)
        · exact .inr ⟨key', key :: before, after, rfl, List.forall_mem_cons.2 ⟨hkey, hbefore⟩, hinvalid⟩
      · exact .inr ⟨key, [], rest, rfl, by simp, not_exists.1 hkey⟩

/-- A declared operation whose keys all denote codes is collected. -/
theorem outcome_of_valid (h : d.Builds c)
    (hvalid : ∀ key ∈ Entries.keys d.spec.responses, ∃ code, ResponseCode.Denotes key code)
    (b : Builder) : Build.outcome (d.collect c options) b = .ok () := by
  refine Build.outcome_collect h (Build.outcome_mapM_ok fun entry hentry => ?_) b
  obtain ⟨code, hcode⟩ := hvalid entry.1 (List.mem_map_of_mem hentry)
  exact Build.outcome_response hcode (h.responses entry hentry)

/-- A declared operation is refused for the first key that denotes no code. -/
theorem outcome_of_firstInvalid (h : d.Builds c) {key : String} (hfirst : d.FirstInvalid key)
    (b : Builder) : Build.outcome (d.collect c options) b =
      .error (.invalidResponseCode (d.name options) key) := by
  obtain ⟨before, after, hkeys, hbefore, hinvalid⟩ := hfirst
  obtain ⟨entries, rest, hsplit, rfl, hrest⟩ := List.map_eq_append_iff.1 hkeys
  obtain ⟨entry, later, rfl, rfl, rfl⟩ := List.map_eq_cons_iff.1 hrest
  refine Build.outcome_collect h ?_ b
  rw [hsplit]
  refine Build.outcome_mapM_error (fun entry' hentry => ?_) (Build.outcome_response_invalid hinvalid)
  obtain ⟨code, hcode⟩ := hbefore entry'.1 (List.mem_map_of_mem hentry)
  exact Build.outcome_response hcode (h.responses entry' (hsplit ▸ List.mem_append_left _ hentry))

/-- Collecting fails for a key exactly when it is the first that denotes no code. -/
theorem collect_eq_error_iff (h : d.Builds c) {b : Builder} {name key : String} :
    (Build.run (d.collect c options) b).1 = .error (.invalidResponseCode name key) ↔
      name = d.name options ∧ d.FirstInvalid key := by
  rw [← Build.outcome_eq_error_iff]
  constructor
  · intro herror
    rcases d.valid_or_firstInvalid with hvalid | ⟨key', hfirst⟩
    · rw [outcome_of_valid h hvalid] at herror
      cases herror
    · rw [outcome_of_firstInvalid h hfirst] at herror
      cases herror
      exact ⟨rfl, hfirst⟩
  · rintro ⟨rfl, hfirst⟩
    exact outcome_of_firstInvalid h hfirst b

/-! ## Responses in order -/

theorem response_declared {scope name : String} {entry : String × RefOr ResponseSpec}
    {response : Response} {b b' : Builder}
    (h : Build.run (Build.response c scope name entry.1 entry.2) b = (.ok response, b')) :
    Declared c entry response := by
  obtain ⟨code, spec, model, hcode, hspec, hmodel, rfl⟩ := Build.response_ok h
  refine ⟨ResponseCode.ofKey?_eq_some_iff.1 hcode, spec, hspec, ?_, rfl, rfl, rfl⟩
  rcases Build.responseModel_ok hmodel with ⟨hnone, rfl, -⟩ | ⟨mediaType, media, id, hsome, rfl, -⟩
  · exact iff_of_true rfl hnone
  · exact iff_of_false (by simp) (by simp [hsome])

/-- The responses of a collected operation are the declared ones in the order of their codes. -/
theorem collect_ordersResponses {op : Operation} {b b' : Builder}
    (h : Build.run (d.collect c options) b = (.ok op, b')) : d.OrdersResponses c op.responses := by
  obtain ⟨name, specs, parameters, bodies, responses, b₁, b₂, b₃, -, -, -, -, h₃, -, rfl⟩ :=
    Build.operation_ok h
  have hsorted : (responses.mergeSort fun a b => a.code.le b.code).Pairwise
      fun a b => a.code.le b.code = true :=
    List.pairwise_mergeSort (fun a b c => ResponseCode.le_trans a.code b.code c.code)
      (fun a b => ResponseCode.le_total a.code b.code) responses
  exact ⟨⟨responses, List.mergeSort_perm _ _, Build.mapM_forall₂ response_declared h₃⟩,
    hsorted.imp ResponseCode.le_iff.1⟩

namespace OrdersResponses

variable {responses : List Response}

/-- The codes of the responses are the declared ones. -/
theorem mem_codes_iff (h : d.OrdersResponses c responses) {code : ResponseCode} :
    code ∈ responses.map (·.code) ↔ d.Declares code := by
  obtain ⟨inOrder, hperm, hall⟩ := h.declared
  rw [(hperm.map _).mem_iff, List.mem_map]
  constructor
  · rintro ⟨response, hresponse, rfl⟩
    obtain ⟨entry, hentry, hdeclared⟩ := exists_of_forall₂ hall hresponse
    exact ⟨entry.1, List.mem_map_of_mem hentry, hdeclared.code⟩
  · rintro ⟨key, hkey, hcode⟩
    obtain ⟨entry, hentry, rfl⟩ := List.mem_map.1 hkey
    obtain ⟨response, hresponse, hdeclared⟩ := exists_of_forall₂ hall.flip hentry
    refine ⟨response, hresponse, Option.some.inj ?_⟩
    rw [← ResponseCode.ofKey?_eq_some_iff.2 hcode, ResponseCode.ofKey?_eq_some_iff.2 hdeclared.code]

/-- What is found by looking for the first code of each kind is the result. -/
theorem isResult (h : d.OrdersResponses c responses) :
    ResponseCode.IsResult d.Declares (ResponseCode.result? (responses.map (·.code))) := by
  have hcodes : (responses.map (·.code)).Pairwise fun a b => a.le b = true :=
    List.pairwise_map.2 (h.ascending.imp ResponseCode.le_iff.2)
  have hdeclares : (· ∈ responses.map (·.code)) = d.Declares :=
    funext fun code => propext h.mem_codes_iff
  exact hdeclares ▸ ResponseCode.isResult_result? hcodes

end OrdersResponses

/-! ## Finished operations -/

/-- A finished operation has the responses that were collected, and their result. -/
theorem Finishes.responses {op : Operation} (h : d.Finishes c op) : d.OrdersResponses c op.responses ∧
    op.result = ResponseCode.result? (op.responses.map (·.code)) := by
  obtain ⟨options, b, collected, b', hcollect, r, verify, ops, finished, i, hfinalize, hi, hi'⟩ := h
  rw [Operation.finalize, Logged.andThen_value] at hfinalize
  obtain ⟨named, hnamed, hsettled⟩ := bind_ok_iff.1 hfinalize
  obtain rfl := Operation.identifyFrom_named hnamed
  obtain rfl := Operation.mapM_settle?_ok hsettled
  rw [List.getElem?_map, List.getElem?_map, hi] at hi'
  obtain rfl := Option.some.inj hi'
  -- neither its identity nor what is settled changes the responses
  have horders := collect_ordersResponses hcollect
  exact ⟨horders, rfl⟩

theorem Finishes.isResult {op : Operation} (h : d.Finishes c op) :
    ResponseCode.IsResult d.Declares op.result := by
  obtain ⟨horders, hresult⟩ := h.responses
  exact hresult ▸ horders.isResult

/-- The result of a finished operation is the code of one of its responses. -/
theorem Finishes.resultResponse? {op : Operation} (h : d.Finishes c op) :
    ∀ code ∈ op.result, ∃ response, op.resultResponse? = some response ∧ response.code = code := by
  intro code hcode
  have hdeclared := ResponseCode.IsResult.declared (Option.mem_def.1 hcode ▸ h.isResult)
  obtain ⟨response, hmem, rfl⟩ := List.mem_map.1 (h.responses.1.mem_codes_iff.2 hdeclared)
  obtain ⟨found, hfound⟩ := Option.isSome_iff_exists.1
    (List.find?_isSome (p := (·.code = response.code)).2 ⟨response, hmem, by simp⟩)
  refine ⟨found, ?_, by simpa using List.find?_some hfound⟩
  rw [Operation.resultResponse?, Option.mem_def.1 hcode]
  exact hfound

/-- By itself an operation that is collected can always be finished. -/
theorem exists_finishes {op : Operation} {b b' : Builder}
    (h : Build.run (d.collect c options) b = (.ok op, b')) : ∃ op', d.Finishes c op' := by
  have htags : ∀ o ∈ [op], o.tags.Nodup := by
    rw [List.forall_mem_singleton, (Build.operation_yields h).tags]
    exact nodup_distinct _
  obtain ⟨named, hnamed⟩ := (Operation.identifyAll_isOk_iff htags).2
    ⟨List.pairwise_singleton _ _, List.nodup_singleton _⟩
  have hsettled : op.underIdentity.settle? {} = .ok (op.underIdentity.settle {}) := by
    have hnone : op.underIdentity.ambiguousResponse? {} = none :=
      List.find?_eq_none.2 fun response _ => by
        cases response.model <;> simp [Registry.isAmbiguousResponse, Registry.holds, Registry.node?]
    rw [Operation.settle?, hnone]
  refine ⟨op.underIdentity.settle {}, options, b, op, b', h, {}, true, [op],
    [op.underIdentity.settle {}], 0, ?_, rfl, rfl⟩
  rw [Operation.finalize, Logged.andThen_value, hnamed, Operation.identifyFrom_named hnamed]
  exact mapM_ok_iff.2 (.cons hsettled .nil)

/-- An operation that can be followed and built is refused exactly for the first key of its responses
    that denotes no code. Otherwise its responses are the declared ones in the order of their codes;
    and once it is finished its result is what the declared codes say, in whatever order they are
    declared, and the response of that code is found. -/
theorem responses_ordered (h : d.Builds c) :
    (∀ options b name key,
      (Build.run (d.collect c options) b).1 = .error (.invalidResponseCode name key) ↔
        name = d.name options ∧ d.FirstInvalid key) ∧
    ((∀ key ∈ Entries.keys d.spec.responses, ∃ code, ResponseCode.Denotes key code) →
      ∀ options b, ∃ op b', Build.run (d.collect c options) b = (.ok op, b') ∧
        d.OrdersResponses c op.responses) ∧
    (∀ op, d.Finishes c op → d.OrdersResponses c op.responses ∧
      ResponseCode.IsResult d.Declares op.result ∧
      ∀ code ∈ op.result, ∃ response, op.resultResponse? = some response ∧ response.code = code) ∧
    ∀ (d' : DeclaredOperation) (op op' : Operation), d'.spec.responses.Perm d.spec.responses →
      d.Finishes c op → d'.Finishes c op' → op'.result = op.result := by
  refine ⟨fun options b name key => collect_eq_error_iff h, fun hvalid options b => ?_,
    fun op hop => ⟨hop.responses.1, hop.isResult, hop.resultResponse?⟩,
    fun d' op op' hperm hop hop' => ?_⟩
  · have hok : Build.outcome (d.collect c options) b = .ok () := outcome_of_valid h hvalid b
    obtain ⟨op, b', hrun⟩ := Build.outcome_eq_ok_iff.1 hok
    exact ⟨op, b', hrun, collect_ordersResponses hrun⟩
  · have hdeclares : d'.Declares = d.Declares := funext fun code => propext <| by
      simp only [Declares, (hperm.map Prod.fst).mem_iff, Entries.keys]
    exact (hdeclares ▸ hop'.isResult).unique hop.isResult

/-- One component that can be built. -/
def petComponents : Components where
  schemas := [("Pet", .inline { type := some (.single .object) })]

/-- Pets, answered under each of some keys. -/
def pets (keys : List String) : DeclaredOperation where
  path := "/pets"
  method := .get
  shared := []
  spec :=
    { responses := keys.map fun key => (key, .inline
        { content := [("application/json",
            { schema := some (.ref "#/components/schemas/Pet" none) })] }) }

theorem builds_pets (keys : List String) : (pets keys).Builds petComponents where
  parameters := ⟨[], rfl, by simp⟩
  body := by rintro _ ⟨⟩
  responses := by
    intro entry hentry
    obtain ⟨key, -, rfl⟩ := List.mem_map.1 hentry
    refine ⟨_, rfl, ?_⟩
    rintro _ _ ⟨⟩ _ ⟨⟩
    refine ⟨"", "", {}, ?_⟩
    rw [Build.occurrence]
    exact Build.outcome_resolving_bind (a := "Pet") (by decide +kernel) _

/-- Among a default, an error, a range and a status that says success the status is the result; and of
    two keys that denote no code the first is refused. -/
theorem responses_ordered_pets :
    (∃ op, (pets ["default", "404", "2XX", "201"]).Finishes petComponents op ∧
      op.result = some (.status 201)) ∧
    ∀ options b, (Build.run ((pets ["200", "2x0", "9XX"]).collect petComponents options) b).1 =
      .error (.invalidResponseCode ((pets ["200", "2x0", "9XX"]).name options) "2x0") := by
  have hread : ∀ key ∈ ["default", "404", "2XX", "201"], ResponseCode.ofKey? key ∈
      [some .default, some (.status 404), some (.range 2), some (.status 201)] := by decide
  constructor
  · obtain ⟨-, hcollected, hfinished, -⟩ :=
      responses_ordered (builds_pets ["default", "404", "2XX", "201"])
    have hvalid : ∀ key ∈ ["default", "404", "2XX", "201"],
        ∃ code, ResponseCode.Denotes key code := by
      intro key hkey
      have hmem := hread key hkey
      cases hkey' : ResponseCode.ofKey? key with
      | none => simp [hkey'] at hmem
      | some code => exact ⟨code, ResponseCode.ofKey?_eq_some_iff.1 hkey'⟩
    obtain ⟨op, b', hrun, -⟩ := hcollected hvalid {} {}
    obtain ⟨op', hop'⟩ := exists_finishes hrun
    refine ⟨op', hop', (hfinished op' hop').2.1.unique (.status ⟨?_, by decide, by decide⟩ ?_)⟩
    · exact ⟨"201", by decide, ResponseCode.ofKey?_eq_some_iff.1 (by decide)⟩
    · rintro m ⟨⟨key, hkey, hm⟩, hlow, hhigh⟩
      have hmem := hread key hkey
      rw [ResponseCode.ofKey?_eq_some_iff.2 hm] at hmem
      have hcodes : m = 404 ∨ m = 201 := by simpa using hmem
      omega
  · intro options b
    refine ((responses_ordered (builds_pets ["200", "2x0", "9XX"])).1 options b _ _).2 ⟨rfl, ?_⟩
    refine ⟨["200"], ["9XX"], rfl, ?_, fun code hkey => ?_⟩
    · exact List.forall_mem_singleton.2
        ⟨.status 200, ResponseCode.ofKey?_eq_some_iff.1 (by decide)⟩
    · have hnone : ResponseCode.ofKey? "2x0" = none := by decide
      rw [ResponseCode.ofKey?_eq_some_iff.2 hkey] at hnone
      cases hnone

end DeclaredOperation

end OpenApi
