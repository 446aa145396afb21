import OpenApi.Proofs.Flattening
import OpenApi.Proofs.Following
import OpenApi.Proofs.Kept

set_option autoImplicit false

/-! # Responses that cannot be decoded

A response is `Undecodable` when its node is at its end a choice among two or more scalars. The test that
refuses such responses looks at the split of a composite and at the kinds of its parts only. That it
is exact (`isAmbiguousResponse_iff`) rests on how the graph is built: the node of a response stands
for a schema, and no constituent of a composite is a composite itself, since inline composites are
promoted and referred to. -/

namespace OpenApi

/-! ## What responses stand for -/

namespace View

variable {c : Components} {v v' : View} {s : SchemaOrRef} {id : ModelId} {m : Model}

/-- The node of a response, if it has one, stands for a schema, or admits anything. -/
def Answers (c : Components) (v : View) (response : Response) : Prop :=
  ∀ id ∈ response.model, (∃ s, v.Depicts c s id) ∨ ∃ m, v.node id m ∧ m.kind = .primitive

/-- The responses of an operation are in the order of their codes, and their nodes stand for
    schemas. -/
structure Responds (c : Components) (v : View) (op : Operation) : Prop where
  sorted : op.responses.Pairwise fun a b => a.code.le b.code = true
  answers : ∀ response ∈ op.responses, v.Answers c response

theorem Answers.mono (h : v.Le c v') {response : Response} (hr : v.Answers c response) :
    v'.Answers c response := by
  intro id hid
  rcases hr id hid with ⟨s, hs⟩ | ⟨m, hm, hk⟩
  · exact .inl ⟨s, hs.mono h⟩
  · obtain ⟨m', hm', halike, -⟩ := h.node hm
    exact .inr ⟨m', hm', halike.kind.trans hk⟩

theorem Responds.mono (h : v.Le c v') {op : Operation} (hop : v.Responds c op) :
    v'.Responds c op :=
  ⟨hop.sorted, fun r hr => (hop.answers r hr).mono h⟩

/-- What stands in the place of a schema is no composite: it may refer to one. -/
theorem Occurs.not_composite (h : Occurs c v s id m) : m.kind.isComposite = false := by
  cases h with
  | reference _ _ hk => rw [hk]; rfl
  | promoted _ hk => rw [hk]; rfl
  | inPlace hform hdef =>
      cases hdef with
      | object _ hk => rw [hk]; rfl
      | composite hform' => exact absurd (by rw [hform']; rfl) hform
      | literal _ hk => rw [hk]; rfl
      | array _ hk => rw [hk]; rfl
      | dictionary _ hk => rw [hk]; rfl
      | primitive _ hk => rw [hk]; rfl

theorem HasBranches.not_composite {bs : List SchemaOrRef} {ids : List ModelId}
    (h : HasBranches c v bs ids) : ∀ p ∈ ids, ∃ q, v.node p q ∧ q.kind.isComposite = false := by
  induction ids generalizing bs with
  | nil => simp
  | cons id ids ih =>
      cases h with
      | cons hnode hocc hrest =>
          intro p hp
          rcases List.mem_cons.1 hp with rfl | hp
          · exact ⟨_, hnode, hocc.not_composite⟩
          · exact ih hrest p hp

theorem HasConstituents.not_composite {k : Combination} {s : Schema} {ids : List ModelId}
    (h : HasConstituents c v k s ids) : ∀ p ∈ ids, ∃ q, v.node p q ∧ q.kind.isComposite = false := by
  cases h with
  | oneOf hbs => exact hbs.not_composite
  | anyOf hbs => exact hbs.not_composite
  | allOf _ hbs => exact hbs.not_composite
  | allOfOwn _ hbs hown hk =>
      intro p hp
      rcases List.mem_append.1 hp with hp | hp
      · exact hbs.not_composite p hp
      · rw [List.mem_singleton.1 hp]
        exact ⟨_, hown, by rw [hk]; rfl⟩

end View

namespace Build

open Builder View

variable {c : Components} {b b' : Builder}

/-- The node of a response is an occurrence of the schema of its content, or admits anything. -/
theorem response_answers {scope name : String} {entry : String × RefOr ResponseSpec} {r : Response}
    (hb : b.Ready c) (h : run (response c scope name entry.1 entry.2) b = (.ok r, b')) :
    b'.whole.Answers c r := by
  obtain ⟨code, spec, model, -, -, hmodel, rfl⟩ := response_ok h
  rcases responseModel_ok hmodel with ⟨-, rfl, rfl⟩ | ⟨mediaType, media, id, -, rfl, hrun⟩
  · rintro _ ⟨⟩
  · rintro _ ⟨⟩
    cases hs : media.schema with
    | none =>
        rw [hs, occurrenceOrAny] at hrun
        obtain ⟨rfl, rfl⟩ := run_push_ok hrun
        exact .inr ⟨_, ⟨trivial, Registry.node?_push_self _ _⟩, rfl⟩
    | some s =>
        rw [hs] at hrun
        obtain ⟨-, -, m, hm, hocc⟩ := occurrenceOrAny_ok hb hrun
        exact .inl ⟨s, m, ⟨trivial, hm⟩,
          (hocc s rfl).mono (b'.view_le_view fun _ _ => trivial) (Model.Alike.refl m)⟩

theorem operation_responds {options : Options} {path : String} {method : Method}
    {shared : List (RefOr ParameterSpec)} {spec : OperationSpec} {op : Operation} (hb : b.Ready c)
    (h : run (operation c options path method shared spec) b = (.ok op, b')) :
    b'.whole.Responds c op := by
  obtain ⟨name, specs, parameters, bodies, responses, b₁, b₂, b₃, -, -, h₁, h₂, h₃, rfl, rfl⟩ :=
    operation_ok h
  obtain ⟨hsteps₁, -⟩ := mapM_represents (fun hle hp => hp.mono hle) parameter_represents hb h₁
  have hb₁ := Steps.ready hsteps₁ hb
  obtain ⟨hsteps₂, -⟩ := body_represents hb₁ h₂
  obtain ⟨-, hall⟩ := mapM_represents (R := fun v _ r => v.Answers c r) (fun hle hr => hr.mono hle)
    (fun hb h => ⟨(response_represents hb h).1, response_answers hb h⟩) (Steps.ready hsteps₂ hb₁) h₃
  refine ⟨List.pairwise_mergeSort (fun x y z => ResponseCode.le_trans x.code y.code z.code)
    (fun x y => ResponseCode.le_total x.code y.code) responses, fun r hr => ?_⟩
  obtain ⟨-, -, hanswers⟩ := exists_of_forall₂ hall (List.mem_mergeSort.1 hr)
  exact hanswers

/-- The operations that are collected respond in order. -/
theorem collect_responds {d : Document} {options : Options} {ops : List Operation}
    (hb : b.Ready d.componentsOrNone) (h : run (collect d options) b = (.ok ops, b')) :
    ∀ op ∈ ops, b'.whole.Responds d.componentsOrNone op := by
  have hall := collect_each (R := fun v _ op => v.Responds d.componentsOrNone op)
    (fun hle hop => hop.mono hle) operation_responds hb h
  intro op hop
  obtain ⟨-, -, hresponds⟩ := exists_of_forall₂ hall hop
  exact hresponds

end Build

/-! ## The test of a response -/

namespace Registry

variable {r r' : Registry} {id : ModelId}

/-- The node is at its end a choice among two or more constituents, and each of these is at its end a
    primitive or an enum. -/
def Undecodable (r : Registry) (id : ModelId) : Prop :=
  ∃ m, r.node? (r.canonical id) = some m ∧
    (m.kind = .composite .oneOf ∨ m.kind = .composite .anyOf) ∧ 2 ≤ m.properties.length ∧
    ∀ p ∈ m.properties, ∃ q, r.node? (r.canonical p) = some q ∧ q.kind.isScalar = true

/-- Decorating a graph does not make a difference to what can be decoded. -/
theorem Decorates.undecodable_iff (h : r.Decorates r') : r'.Undecodable id ↔ r.Undecodable id := by
  have hscalar : ∀ p, (∃ q, r'.node? p = some q ∧ q.kind.isScalar = true) ↔
      ∃ q, r.node? p = some q ∧ q.kind.isScalar = true := fun p =>
    h.exists_node_iff fun hd => by rw [hd.alike.kind]
  simp only [Undecodable, h.canonical_eq, hscalar]
  exact h.exists_node_iff fun hd => by rw [hd.alike.kind, hd.alike.properties]

theorem isAmbiguousResponse_eq_true_iff : r.isAmbiguousResponse id = true ↔
    ∃ m, r.node? (r.canonical id) = some m ∧
      (m.kind = .composite .oneOf ∨ m.kind = .composite .anyOf) ∧ m.composedModels = [] ∧
      (∀ p ∈ m.composedPrimitives, ∀ q, r.node? p = some q → q.kind.isContainer = false) ∧
      2 ≤ m.composedPrimitives.length := by
  rw [isAmbiguousResponse, holds, Option.any_eq_true]
  refine exists_congr fun m => and_congr_right fun _ => ?_
  simp only [Bool.and_eq_true, Bool.or_eq_true, decide_eq_true_eq, List.isEmpty_iff, holds,
    Bool.not_eq_true', List.any_eq_false, Bool.not_eq_true, Option.any_eq_false, and_assoc]

end Registry

namespace Builder.Linkable

open Registry View

variable {c : Components} {b : Builder} {id t : ModelId} {m : Model}

/-- The node at the end of what stands for a schema says what the schema says that this resolves to. -/
theorem defines_canonical (hb : b.Linkable c) {s : SchemaOrRef} (h : b.whole.Depicts c s id) :
    ∃ t m, c.resolve s = .ok t ∧ b.registry.node? (b.registry.canonical id) = some m ∧
      Defines c b.whole t (b.registry.canonical id) m := by
  obtain ⟨m, ⟨-, hm⟩, hocc⟩ := h
  cases hocc with
  | reference htarget hname hk hbase =>
      obtain ⟨e, he, hl⟩ := hb.complete.resolved.canonical_target htarget hname
      obtain ⟨t, ht, hmem⟩ := Components.resolve_of_canonicalName he
      rw [hb.complete.resolved.canonical_reference hm hk (hbase ▸ hname)]
      cases hb.complete.components hmem with
      | definition hname' hnode _ hdef =>
          rw [show b.registry.lookup e = some _ from hname'] at hl
          cases hl
          exact ⟨t, _, ht, hnode.2, hdef⟩
  | promoted _ hk hname hnode _ hdef =>
      rw [hb.complete.resolved.canonical_reference hm hk hname,
        (hdef.settled hnode.2 fun hn => hn).canonical]
      exact ⟨_, _, rfl, hnode.2, hdef⟩
  | inPlace _ hdef =>
      rw [(hdef.settled hm fun hn => hn).canonical]
      exact ⟨_, _, rfl, hm, hdef⟩

/-- No constituent of the composite at the end of a response is a composite. -/
theorem constituent_not_composite (hb : b.Linkable c) {response : Response}
    (h : b.whole.Answers c response) (hid : id ∈ response.model)
    (hm : b.registry.node? (b.registry.canonical id) = some m) (hk : m.kind.isComposite = true)
    {p : ModelId} (hp : p ∈ m.properties) :
    ∃ q, b.registry.node? p = some q ∧ q.kind.isComposite = false := by
  rcases h id hid with ⟨s, hs⟩ | ⟨n, ⟨-, hn⟩, hprim⟩
  · obtain ⟨t, m', -, hm', hdef⟩ := hb.defines_canonical hs
    rw [hm] at hm'
    cases hm'
    cases hdef with
    | composite _ _ _ _ hcons =>
        obtain ⟨q, ⟨-, hq⟩, hkq⟩ := hcons.not_composite p hp
        exact ⟨q, hq, hkq⟩
    | object _ hk' => rw [hk'] at hk; cases hk
    | literal _ hk' => rw [hk'] at hk; cases hk
    | array _ hk' => rw [hk'] at hk; cases hk
    | dictionary _ hk' => rw [hk'] at hk; cases hk
    | primitive _ hk' => rw [hk'] at hk; cases hk
  · have hsettled := settled_of_ne_reference hn (by simp [hprim])
    rw [hsettled.canonical, hn] at hm
    cases hm
    rw [hprim] at hk
    cases hk

/-- A constituent that is neither a container nor a composite refers to a model or is a scalar. -/
theorem scalar_or_refersToModel (hb : b.Linkable c) {q : Model} (hq : b.registry.node? id = some q)
    (hcomposite : q.kind.isComposite = false) (hcontainer : q.kind.isContainer = false) :
    b.registry.RefersToModel id ∨
      ∃ t, b.registry.node? (b.registry.canonical id) = some t ∧ t.kind.isScalar = true := by
  obtain ⟨t, ht, -⟩ := (hb.leads_canonical hq).2
  cases hs : t.kind.isScalar with
  | true => exact .inr ⟨t, ht, hs⟩
  | false =>
      by_cases hk : q.kind = .reference
      · exact .inl ⟨q, t, hq, hk, ht, hs⟩
      · have hsettled := settled_of_ne_reference hq hk
        rw [hsettled.canonical, hq] at ht
        cases ht
        cases hkind : q.kind <;> simp_all [ModelKind.isScalar, ModelKind.isComposite,
          ModelKind.isContainer]

/-- The test refuses just the responses that cannot be decoded. -/
theorem isAmbiguousResponse_iff (hb : b.Linkable c) {flat : Registry}
    (hflat : b.registry.flatten.value = .ok flat) {response : Response}
    (h : b.whole.Answers c response) (hid : id ∈ response.model) :
    flat.isAmbiguousResponse id = true ↔ flat.Undecodable id := by
  have hd := decorates_flatten hflat
  have hsplits := (hb.of_flatten_ok hflat).2
  rw [hd.undecodable_iff, isAmbiguousResponse_eq_true_iff, Undecodable]
  simp only [hd.canonical_eq]
  constructor
  · rintro ⟨m', hm', hk, hnone, hcontainer, hlen⟩
    obtain ⟨m, hm, hdm⟩ := hd.node_back hm'
    rw [hdm.alike.kind] at hk
    have hcomp : m.kind.isComposite = true := by rcases hk with hk | hk <;> rw [hk] <;> rfl
    obtain ⟨models, rest, hm'', -, -, hperm, -, hrest⟩ := hsplits.composites hm hcomp
    rw [hm'] at hm''
    cases hm''
    obtain rfl : models = [] := hnone
    rw [List.nil_append] at hperm
    refine ⟨m, hm, hk, hperm.length_eq ▸ hlen, fun p hp => ?_⟩
    have hp' : p ∈ rest := hperm.mem_iff.2 hp
    obtain ⟨q, hq, hkq⟩ := hb.constituent_not_composite h hid hm hcomp hp
    obtain ⟨q', hq', hdq⟩ := hd.node hq
    have hkq' : q.kind.isContainer = false := hdq.alike.kind ▸ hcontainer p hp' q' hq'
    exact (hb.scalar_or_refersToModel hq hkq hkq').resolve_left (hrest p hp')
  · rintro ⟨m, hm, hk, hlen, hall⟩
    have hcomp : m.kind.isComposite = true := by rcases hk with hk | hk <;> rw [hk] <;> rfl
    obtain ⟨models, rest, hm', hsub, -, hperm, hmodels, -⟩ := hsplits.composites hm hcomp
    -- no scalar is a reference to a model, so that there are none of these
    have hnone : models = [] := List.eq_nil_iff_forall_not_mem.2 fun p hp => by
      obtain ⟨q, hq, hscalar⟩ := hall p (hsub.subset hp)
      obtain ⟨-, q', -, -, hq', hnot⟩ := hmodels p hp
      rw [hq] at hq'
      cases hq'
      rw [hscalar] at hnot
      cases hnot
    subst hnone
    rw [List.nil_append] at hperm
    refine ⟨_, hm', hk, rfl, fun p hp q' hq' => ?_, hperm.length_eq.symm ▸ hlen⟩
    obtain ⟨q, hq, hscalar⟩ := hall p (hperm.mem_iff.1 hp)
    obtain ⟨n, hn, hdn⟩ := hd.node_back hq'
    rw [hdn.alike.kind]
    -- a container is its own end, where there is a scalar
    by_cases hk' : n.kind = .reference
    · rw [hk']
      rfl
    · rw [(settled_of_ne_reference hn hk').canonical, hn] at hq
      cases hq
      cases hkind : q.kind <;> simp_all [ModelKind.isScalar, ModelKind.isContainer]

end Builder.Linkable

/-! ## The first refused response -/

namespace Operation

variable {r : Registry} {op : Operation} {ops : List Operation}

theorem ambiguousResponse?_eq_none_iff : op.ambiguousResponse? r = none ↔
    ∀ response ∈ op.responses, ∀ id ∈ response.model, r.isAmbiguousResponse id = false := by
  simp [ambiguousResponse?, List.find?_eq_none, Option.any_eq_true]

/-- Operations that are settled have no response that is refused. -/
theorem ambiguousResponse?_of_mapM {ops' : List Operation} (h : ops.mapM (settle? r) = .ok ops') :
    ∀ op ∈ ops, op.ambiguousResponse? r = none := by
  induction ops generalizing ops' with
  | nil => simp
  | cons op rest ih =>
      rw [List.mapM_cons] at h
      obtain ⟨op', hop, h⟩ := bind_ok_iff.1 h
      obtain ⟨rest', hrest, -⟩ := bind_ok_iff.1 h
      refine List.forall_mem_cons.2 ⟨?_, ih hrest⟩
      unfold settle? at hop
      split at hop
      · cases hop
      · next hnone => exact hnone

/-- The first operation with a response that is refused is the one in the error. -/
theorem mapM_settle?_error (h : ∃ op ∈ ops, op.ambiguousResponse? r ≠ none) :
    ∃ before op after response, ops = before ++ op :: after ∧
      op.ambiguousResponse? r = some response ∧
      (∀ o ∈ before, o.ambiguousResponse? r = none) ∧
      ops.mapM (settle? r) = .error (.ambiguousResponse op.operationId response.code.text) := by
  induction ops with
  | nil => simp at h
  | cons op rest ih =>
      cases hop : op.ambiguousResponse? r with
      | some response =>
          refine ⟨[], op, rest, response, rfl, hop, by simp, ?_⟩
          rw [List.mapM_cons, settle?, hop]
          rfl
      | none =>
          have hrest : ∃ o ∈ rest, o.ambiguousResponse? r ≠ none := by
            obtain ⟨o, ho, hne⟩ := h
            rcases List.mem_cons.1 ho with rfl | ho
            · exact absurd hop hne
            · exact ⟨o, ho, hne⟩
          obtain ⟨before, o, after, response, rfl, ho, hbefore, herror⟩ := ih hrest
          refine ⟨op :: before, o, after, response, rfl, ho, ?_, ?_⟩
          · exact List.forall_mem_cons.2 ⟨hop, hbefore⟩
          · rw [List.mapM_cons, settle?, hop, herror]
            rfl

end Operation

namespace Document

open Build Builder Registry

variable {d : Document} {options : Options} {b : Builder} {ops : List Operation}

/-- The operations of a document respond in order, also in its linked graph. -/
theorem buildGraph_responds (hc : (Entries.keys d.componentsOrNone.schemas).Nodup)
    (h : run (d.buildGraph options) {} = (.ok ops, b)) :
    b.Linkable d.componentsOrNone ∧ (∀ op ∈ ops, b.whole.Responds d.componentsOrNone op) ∧
      List.Forall₂ (DeclaredOperation.Yields options) d.declaredOperations ops := by
  obtain ⟨b₁, e, b₂, hadd, hcollect, hlink⟩ := buildGraph_ok h
  obtain ⟨hready, hb₂⟩ := collect_linkable hc hadd hcollect
  obtain ⟨hlinkable, hle, -, -⟩ := hb₂.linkAll hlink
  refine ⟨hlinkable, fun op hop => ?_, collect_yields hcollect⟩
  exact (collect_responds hready hcollect op hop).mono hle

/-- Whether an operation is refused is whether it has a response that cannot be decoded. -/
theorem ambiguousResponse?_eq_none_iff (hb : b.Linkable d.componentsOrNone) {flat : Registry}
    (hflat : b.registry.flatten.value = .ok flat) {op : Operation}
    (hop : b.whole.Responds d.componentsOrNone op) : op.ambiguousResponse? flat = none ↔
      ∀ response ∈ op.responses, ∀ id ∈ response.model, ¬ flat.Undecodable id := by
  rw [Operation.ambiguousResponse?_eq_none_iff]
  refine forall₂_congr fun response hresponse => forall₂_congr fun id hid => ?_
  rw [← hb.isAmbiguousResponse_iff hflat (hop.answers response hresponse) hid, Bool.not_eq_true]

/-- The value of a document whose graph, split and identities are there: the operations are settled
    one by one. -/
theorem finished_of_named {flat : Registry} {named : List Operation}
    (h : run (d.buildGraph options) {} = (.ok ops, b)) (hflat : b.registry.flatten.value = .ok flat)
    (hnamed : (Operation.identifyAll options.verifyDeduplicatedIds ops).value = .ok named) :
    d.finished options = (named.mapM (Operation.settle? flat)).map fun settled =>
      (flat.mapLanguages options.languages,
        settled.map (Operation.mapLanguages options.languages)) := by
  have hgraph : (d.graphOf options).value = .ok (b.registry, ops) := by
    unfold graphOf
    rw [h]
    rfl
  have hfinal : (Operation.finalize flat options.verifyDeduplicatedIds ops).value
      = named.mapM (Operation.settle? flat) := by
    rw [Operation.finalize, Logged.andThen_value, hnamed]
    rfl
  unfold finished
  rw [hgraph]
  show (b.registry.flatten.value >>= _) = _
  rw [hflat]
  show ((Operation.finalize flat options.verifyDeduplicatedIds ops).value >>= _) = _
  rw [hfinal]
  cases named.mapM (Operation.settle? flat) <;> rfl

/-- No response of a finished operation is undecodable. -/
theorem finished_decodable (hc : (Entries.keys d.componentsOrNone.schemas).Nodup) {r : Registry}
    (h : d.finished options = .ok (r, ops)) :
    ∀ op ∈ ops, ∀ response ∈ op.responses, ∀ id ∈ response.model, ¬ r.Undecodable id := by
  obtain ⟨collected, b, flat, hrun, hflat, rfl, ⟨named, hnamed⟩, rfl⟩ := finished_ok h
  obtain ⟨hb, hresponds, -⟩ := buildGraph_responds hc hrun
  rw [finished_of_named hrun hflat hnamed, Operation.identifyFrom_named hnamed] at h
  cases hsettled : (collected.map Operation.underIdentity).mapM (Operation.settle? flat) with
  | error e =>
      rw [hsettled] at h
      cases h
  | ok settled =>
      intro op hop response hresponse id hid
      obtain ⟨op, hmem, rfl⟩ := List.mem_map.1 hop
      have hnone := Operation.ambiguousResponse?_of_mapM hsettled _ (List.mem_map_of_mem hmem)
      rw [(decorates_mapLanguages flat options.languages).undecodable_iff]
      exact (ambiguousResponse?_eq_none_iff hb hflat (hresponds op hmem)).1 hnone
        response hresponse id hid

/-- When some response is undecodable, the operations under their identities are not settled, because
    of the first such response. -/
theorem mapM_settle?_undecodable (hb : b.Linkable d.componentsOrNone) {flat : Registry}
    (hflat : b.registry.flatten.value = .ok flat)
    (hresponds : ∀ op ∈ ops, b.whole.Responds d.componentsOrNone op)
    (hsome : ∃ op ∈ ops, ∃ response ∈ op.responses, ∃ id ∈ response.model, flat.Undecodable id) :
    ∃ before op after earlier response later,
      ops = before ++ op :: after ∧ op.responses = earlier ++ response :: later ∧
      (∃ id ∈ response.model, flat.Undecodable id) ∧
      (∀ o ∈ before, ∀ other ∈ o.responses, ∀ id ∈ other.model, ¬ flat.Undecodable id) ∧
      (∀ other ∈ earlier, ∀ id ∈ other.model, ¬ flat.Undecodable id) ∧
      (ops.map Operation.underIdentity).mapM (Operation.settle? flat) =
        .error (.ambiguousResponse op.operationId response.code.text) := by
  have hrefused : ∃ op ∈ ops.map Operation.underIdentity, op.ambiguousResponse? flat ≠ none := by
    obtain ⟨op, hop, response, hresponse, id, hid, hund⟩ := hsome
    refine ⟨op.underIdentity, List.mem_map_of_mem hop, fun hnone => ?_⟩
    exact (ambiguousResponse?_eq_none_iff hb hflat (hresponds op hop)).1 hnone
      response hresponse id hid hund
  obtain ⟨before', op', after', response, hsplit, hop', hbefore', herror⟩ :=
    Operation.mapM_settle?_error hrefused
  -- back from the operations under their identities to those that were collected
  obtain ⟨before, rest, rfl, rfl, hrest⟩ := List.map_eq_append_iff.1 hsplit
  obtain ⟨op, after, rfl, rfl, rfl⟩ := List.map_eq_cons_iff.1 hrest
  have hop : op.ambiguousResponse? flat = some response := hop'
  obtain ⟨hfound, earlier, later, hresponses, hearlier⟩ := List.find?_eq_some_iff_append.1 hop
  have hanswers : ∀ other ∈ op.responses, b.whole.Answers d.componentsOrNone other :=
    (hresponds op (by simp)).answers
  refine ⟨before, op, after, earlier, response, later, rfl, hresponses, ?_, fun o ho => ?_,
    fun other hother id hid => ?_, herror⟩
  · obtain ⟨id, hid, htest⟩ := (Option.any_eq_true _ _).1 hfound
    have hmem : response ∈ op.responses := by simp [hresponses]
    exact ⟨id, hid, (hb.isAmbiguousResponse_iff hflat (hanswers _ hmem) hid).1 htest⟩
  · refine (ambiguousResponse?_eq_none_iff hb hflat (hresponds o (by simp [ho]))).1 ?_
    exact hbefore' o.underIdentity (List.mem_map_of_mem ho)
  · have hmem : other ∈ op.responses := by simp [hresponses, hother]
    rw [← hb.isAmbiguousResponse_iff hflat (hanswers other hmem) hid]
    have htest := hearlier other hother
    rw [Bool.not_eq_true', Option.any_eq_false] at htest
    rw [Bool.not_eq_true]
    exact htest id hid

/-- In the data of a document no response of any operation is undecodable. When the graph, the split of
    its composites and the identities of the operations are there but some response is undecodable, the
    data is refused, and the error names the first such response: the operations are those of the
    document in its order, and the responses of each are in the order of their codes. -/
theorem responses_decodable (hc : (Entries.keys d.componentsOrNone.schemas).Nodup) :
    (∀ data, (d.codeGenData options).value = .ok data → ∃ r ops,
      d.finished options = .ok (r, ops) ∧ data = Assembly.assemble d.info r ops d.vendorExtensions ∧
      ∀ op ∈ ops, ∀ response ∈ op.responses, ∀ id ∈ response.model, ¬ r.Undecodable id) ∧
    ∀ ops b flat named, run (d.buildGraph options) {} = (.ok ops, b) →
      b.registry.flatten.value = .ok flat →
      (Operation.identifyAll options.verifyDeduplicatedIds ops).value = .ok named →
      (∃ op ∈ ops, ∃ response ∈ op.responses, ∃ id ∈ response.model, flat.Undecodable id) →
      List.Forall₂ (DeclaredOperation.Yields options) d.declaredOperations ops ∧
      (∀ op ∈ ops, op.responses.Pairwise fun a b => a.code.le b.code = true) ∧
      ∃ before op after earlier response later,
        ops = before ++ op :: after ∧ op.responses = earlier ++ response :: later ∧
        (∃ id ∈ response.model, flat.Undecodable id) ∧
        (∀ o ∈ before, ∀ other ∈ o.responses, ∀ id ∈ other.model, ¬ flat.Undecodable id) ∧
        (∀ other ∈ earlier, ∀ id ∈ other.model, ¬ flat.Undecodable id) ∧
        (d.codeGenData options).value =
          .error (.ambiguousResponse op.operationId response.code.text) := by
  constructor
  · intro data hdata
    obtain ⟨r, ops, hfinished, hassembled⟩ := codeGenData_ok hdata
    exact ⟨r, ops, hfinished, hassembled, finished_decodable hc hfinished⟩
  · intro ops b flat named hrun hflat hnamed hsome
    obtain ⟨hb, hresponds, hyields⟩ := buildGraph_responds hc hrun
    obtain ⟨before, op, after, earlier, response, later, hops, hresponses, hfirst, hbefore, hearlier,
      herror⟩ := mapM_settle?_undecodable hb hflat hresponds hsome
    refine ⟨hyields, fun o ho => (hresponds o ho).sorted, before, op, after, earlier, response, later,
      hops, hresponses, hfirst, hbefore, hearlier, ?_⟩
    rw [codeGenData_value, finished_of_named hrun hflat hnamed, Operation.identifyFrom_named hnamed,
      herror]
    rfl

/-- Whether the stages up to the identities of the operations succeed and a response is refused
    then. -/
def refusesResponse (d : Document) (options : Options) : Bool :=
  match run (d.buildGraph options) {} with
  | (.ok ops, b) => match b.registry.flatten.value with
      | .ok flat => (Operation.identifyAll options.verifyDeduplicatedIds ops).value.isOk &&
          ops.any fun op => (op.ambiguousResponse? flat).isSome
      | .error _ => false
  | (.error _, _) => false

/-- A document with an operation that answers a text or a number. -/
def choiceDocument : Document where
  openapi := "3.0.0"
  info := { title := "Choices", version := "1" }
  paths :=
    [("/choice",
      { get := some
          { operationId := some "choose"
            responses := [("200", .inline
              { content := [("application/json",
                  { schema := some (.inline
                      { oneOf := [.inline { type := some (.single .string) },
                          .inline { type := some (.single .integer) }] }) })] })] } })]

theorem refused_of_refusesResponse (d : Document) (options : Options)
    (hc : (Entries.keys d.componentsOrNone.schemas).Nodup)
    (h : d.refusesResponse options = true) : ∃ ops b flat named,
      run (d.buildGraph options) {} = (.ok ops, b) ∧ b.registry.flatten.value = .ok flat ∧
      (Operation.identifyAll options.verifyDeduplicatedIds ops).value = .ok named ∧
      ∃ op ∈ ops, ∃ response ∈ op.responses, ∃ id ∈ response.model, flat.Undecodable id := by
  unfold refusesResponse at h
  split at h
  · next ops b hrun =>
      split at h
      · next flat hflat =>
          rw [Bool.and_eq_true, List.any_eq_true] at h
          obtain ⟨hnamed, op, hop, hsome⟩ := h
          obtain ⟨named, hnamed⟩ := exists_eq_ok_of_isOk hnamed
          obtain ⟨hb, hresponds, -⟩ := buildGraph_responds hc hrun
          refine ⟨ops, b, flat, named, hrun, hflat, hnamed, op, hop, ?_⟩
          have hne := (ambiguousResponse?_eq_none_iff hb hflat (hresponds op hop)).not.1
            (Option.isSome_iff_ne_none.1 hsome)
          simpa only [not_forall, not_not, exists_prop] using hne
      · cases h
  · cases h

theorem responses_decodable_choice :
    (∃ data, (treeDocument.codeGenData {}).value = .ok data ∧ ∃ r ops,
      treeDocument.finished {} = .ok (r, ops) ∧
      ∀ op ∈ ops, ∀ response ∈ op.responses, ∀ id ∈ response.model, ¬ r.Undecodable id) ∧
    (choiceDocument.codeGenData {}).value = .error (.ambiguousResponse "choose" "200") := by
  constructor
  · obtain ⟨data, hdata⟩ := exists_eq_ok_of_isOk
      (show (treeDocument.codeGenData {}).value.isOk = true by decide +kernel)
    obtain ⟨r, ops, hfinished, -, hall⟩ := (responses_decodable (by decide)).1 data hdata
    exact ⟨data, hdata, r, ops, hfinished, hall⟩
  · obtain ⟨ops, b, flat, named, hrun, hflat, hnamed, hsome⟩ :=
      refused_of_refusesResponse choiceDocument {} (by decide) (by decide +kernel)
    obtain ⟨-, -, -, op, -, -, response, -, -, -, -, -, -, herror⟩ :=
      (responses_decodable (d := choiceDocument) (by decide)).2 _ _ _ _ hrun hflat hnamed hsome
    have hnames : (choiceDocument.codeGenData {}).value.map (fun _ => ()) =
        .error (.ambiguousResponse "choose" "200") := by decide +kernel
    rw [herror] at hnames ⊢
    exact congrArg Except.error (Except.error.inj hnames)

end Document

end OpenApi
