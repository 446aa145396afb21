import OpenApi.Proofs.Closed
import OpenApi.Proofs.Decodable
import OpenApi.Proofs.Elements

set_option autoImplicit false

/-! # Which bodies stand by their properties

A body is inlined when its properties may stand beside the other parameters of its operation. That is
decided on the finished graph, by the node at the end of the body's references and by the names of the
nodes of its properties. `inlinesBody_iff` says that this comes to the same as a look at the document:
at the definition that the schema of the body resolves to, and at its property names.
`bodies_decided` says so of every operation in the data, and that the body is its last parameter. -/

namespace OpenApi

/-! ## Definitions and their nodes -/

namespace View

variable {c : Components} {v : View} {id : ModelId} {m : Model}

theorem Defines.reference_iff {t : Schema} (h : Defines c v t id m) :
    m.kind = .reference ↔ t.form = .object := by
  rw [h.kind_eq]
  cases t.form <;> simp [formKind]

/-- What the node of an object is like. -/
theorem Defines.object_node {t : Schema} (h : Defines c v t id m) (hform : t.form = .object) :
    m.baseType = m.name ∧ v.named m.name id ∧
      HasProperties c v t.required t.properties m.properties := by
  cases h with
  | object _ _ hbase hname hprops => exact ⟨hbase, hname, hprops⟩
  | composite hform' => rw [hform'] at hform; cases hform
  | literal hform' => rw [hform'] at hform; cases hform
  | array hform' => rw [hform'] at hform; cases hform
  | dictionary hform' => rw [hform'] at hform; cases hform
  | primitive hform' => rw [hform'] at hform; cases hform

/-- The nodes of properties have the names of the properties. -/
theorem HasProperties.map_nameAt {r : Registry} {required : List String}
    {ps : List (String × SchemaOrRef)} {ids : List ModelId}
    (hnode : ∀ {i : ModelId} {n : Model}, v.node i n → r.nodes.nameAt i = n.name)
    (h : HasProperties c v required ps ids) : ids.map r.nodes.nameAt = Entries.keys ps := by
  induction ids generalizing ps with
  | nil =>
      cases h
      rfl
  | cons id ids ih =>
      cases h with
      | cons hid hname _ _ hrest =>
          rw [List.map_cons, ih hrest, hnode hid, hname]
          rfl

end View

namespace Builder.Linkable

open Registry View

variable {c : Components} {b : Builder} {r : Registry} {id : ModelId} {s : SchemaOrRef}

/-- The node at the end of what stands for a schema is an object just when the definition is one that the
    schema resolves to, and then its properties have the names that are written there. -/
theorem isObject_canonical (hb : b.Linkable c) (hd : b.registry.Decorates r)
    (h : b.whole.Depicts c s id) : ∃ t m, c.resolve s = .ok t ∧
      r.node? (r.canonical id) = some m ∧ (r.isObject (r.canonical id) = true ↔ t.form = .object) ∧
      (t.form = .object → m.properties.map r.nodes.nameAt = Entries.keys t.properties) := by
  obtain ⟨t, m, ht, hm, hdef⟩ := hb.defines_canonical h
  obtain ⟨m', hm', hdecorates⟩ := hd.node hm
  rw [← hd.canonical_eq] at hm' hdef
  refine ⟨t, m', ht, hm', ?_, fun hform => ?_⟩
  · constructor
    · intro hobject
      simp only [isObject, holds, hm', Option.any_some, Bool.and_eq_true, decide_eq_true_eq]
        at hobject
      exact hdef.reference_iff.1 (hdecorates.alike.kind ▸ hobject.1.1)
    · intro hform
      obtain ⟨hbase, hname, -⟩ := hdef.object_node hform
      have hnamed : r.isNamed (r.canonical id) = true := by
        refine isNamed_iff.2 ⟨m', hm', ?_⟩
        rw [hd.lookup, hdecorates.alike.name]
        exact hname
      simp [isObject, holds, hm', hdecorates.alike.kind, hdecorates.alike.baseType,
        hdecorates.alike.name, hdef.reference_iff.2 hform, hbase, hnamed]
  · obtain ⟨-, -, hprops⟩ := hdef.object_node hform
    rw [hdecorates.alike.properties]
    refine hprops.map_nameAt fun {i n} hn => ?_
    obtain ⟨n', hn', hn''⟩ := hd.node hn.2
    rw [Nodes.nameAt, show r.nodes[i]? = some n' from hn']
    exact hn''.alike.name

/-- The test of a body comes to a look at the definition that its schema resolves to. -/
theorem inlinesBody_iff (hb : b.Linkable c) (hd : b.registry.Decorates r)
    (h : b.whole.Depicts c s id) (op : Operation) {names : List String}
    (hop : op.declaredParameters.map (·.name) = names) : ∃ t, c.resolve s = .ok t ∧
      (op.inlinesBody r id = true ↔
        names = [] ∨ t.form = .object ∧ ∀ n ∈ names, n ∉ Entries.keys t.properties) := by
  obtain ⟨t, m, ht, hm, hobject, hproperties⟩ := hb.isObject_canonical hd h
  refine ⟨t, ht, ?_⟩
  have hclash : t.form = .object →
      ((m.properties.all fun p => !names.contains (r.nodes.nameAt p)) = true ↔
        ∀ n ∈ names, n ∉ Entries.keys t.properties) := by
    intro hform
    rw [← hproperties hform]
    simp only [List.all_eq_true, Bool.not_eq_true', List.contains_eq_mem, decide_eq_false_iff_not,
      List.mem_map, not_exists, not_and]
    constructor
    · rintro hall _ hn p hp rfl
      exact hall p hp hn
    · intro hall p hp hn
      exact hall _ hn p hp rfl
  simp only [Operation.inlinesBody, hop, Bool.or_eq_true, Bool.and_eq_true, List.isEmpty_iff, holds,
    hm, Option.any_some, hobject]
  exact or_congr_right (and_congr_right hclash)

end Builder.Linkable

/-! ## Where the body stands -/

/-- The body comes last, and no other parameter is one. -/
def Operation.BodyLast (op : Operation) : Prop :=
  op.parameters = op.declaredParameters ++ op.body?.toList

namespace Operation

variable {inlined : ModelId → Bool}

theorem markBody_append {ps : List Parameter} (hps : ∀ p ∈ ps, p.location ≠ .body)
    (qs : List Parameter) : markBody inlined (ps ++ qs) = ps ++ markBody inlined qs := by
  induction ps with
  | nil => rfl
  | cons p ps ih =>
      rw [List.forall_mem_cons] at hps
      rw [List.cons_append, markBody, if_neg hps.1, ih hps.2, List.cons_append]

theorem BodyLast.finished {op : Operation} (h : op.BodyLast) (r : Registry) (langs : List Language) :
    (op.finished r langs).BodyLast := by
  have hmarked : (op.finished r langs).parameters =
      markBody (op.underIdentity.inlinesBody r) op.parameters := rfl
  rw [BodyLast, declaredParameters_finished, body?_finished, hmarked, h, markBody_append]
  · cases hb : op.body? with
    | none => rfl
    | some p =>
        have hlocation : p.location = .body := by simpa using List.find?_some hb
        simp [markBody, hlocation]
  · intro p hp
    simpa using (List.mem_filter.1 hp).2

end Operation

namespace Build

open Builder

variable {c : Components} {options : Options} {b b' : Builder}

theorem operation_bodyLast {path : String} {method : Method} {shared : List (RefOr ParameterSpec)}
    {spec : OperationSpec} {op : Operation} (hb : b.Ready c)
    (h : run (operation c options path method shared spec) b = (.ok op, b')) : op.BodyLast := by
  obtain ⟨name, specs, parameters, bodies, responses, b₁, b₂, b₃, -, -, h₁, h₂, -, -, rfl⟩ :=
    operation_ok h
  obtain ⟨hsteps₁, hparameters⟩ := mapM_represents (fun hle hp => hp.mono hle)
    parameter_represents hb h₁
  obtain ⟨-, body, rfl, -, hlocation⟩ := body_represents (Steps.ready hsteps₁ hb) h₂
  have hdeclared := View.declared_of_representsParameter hparameters
  rw [Operation.BodyLast, declaredParameters_append rfl hdeclared hlocation,
    body?_append rfl hdeclared hlocation]

end Build

/-! ## The operations in the data -/

/-- The body of a declared operation has the schema in the content that is chosen. -/
def DeclaredOperation.HasBody (c : Components) (d : DeclaredOperation) (mediaType : String)
    (s : SchemaOrRef) : Prop :=
  ∃ r body media, d.spec.requestBody = some r ∧ c.resolveRequestBody r = .ok body ∧
    body.content.preferred? = some (mediaType, media) ∧ media.schema = some s

/-- Where an operation has its body, and whether this stands by its properties. -/
structure DeclaredOperation.Decides (c : Components) (d : DeclaredOperation) (op : Operation) :
    Prop where
  /-- The body comes last, and no other parameter is one. -/
  last : op.parameters = op.declaredParameters ++ op.body?.toList
  /-- A body with a schema is inlined when there is no other parameter, or when the schema resolves to
      an object of which no property has the name of one. -/
  inlined : ∃ specs, mergedParameters c d.shared d.spec.parameters = .ok specs ∧
    op.declaredParameters.map (·.name) = specs.map (·.name) ∧
    ∀ mediaType s, d.HasBody c mediaType s → ∃ p t, op.body? = some p ∧
      p.mediaType = some mediaType ∧ c.resolve s = .ok t ∧
      (p.inlined = true ↔ specs = [] ∨
        t.form = .object ∧ ∀ q ∈ specs, q.name ∉ Entries.keys t.properties)

section Decides

open Builder View

variable {c : Components} {b : Builder} {r : Registry} {d : DeclaredOperation} {op : Operation}

theorem View.RepresentsBody.depicts {v : View} {mediaType : String} {s : SchemaOrRef}
    (h : v.RepresentsBody c d.spec.requestBody op.body?) (hs : d.HasBody c mediaType s) :
    ∃ p, op.body? = some p ∧ p.mediaType = some mediaType ∧ v.Depicts c s p.model := by
  obtain ⟨ref, body, media, href, hbody, hcontent, hschema⟩ := hs
  rw [href] at h
  generalize op.body? = p at h ⊢
  cases h with
  | empty hbody' hnone =>
      rw [hbody] at hbody'
      cases hbody'
      rw [hcontent] at hnone
      cases hnone
  | content hbody' hsome htype hstands =>
      rw [hbody] at hbody'
      cases hbody'
      rw [hcontent] at hsome
      cases hsome
      exact ⟨_, rfl, htype, hstands.2 s hschema⟩

/-- An operation that stands for a declared one has its body decided when it is finished. -/
theorem decides_finished (hb : b.Linkable c) (hd : b.registry.Decorates r)
    (h : b.whole.RepresentsOperation c d op) (hlast : op.BodyLast) (langs : List Language) :
    d.Decides c (op.finished r langs) := by
  obtain ⟨specs, hspecs, hall⟩ := h.parameters
  have hnames : op.declaredParameters.map (·.name) = specs.map (·.name) := by
    have heq := List.forall₂_map_left_iff.2 (List.forall₂_map_right_iff.2
      (hall.imp fun _ _ hp => hp.name.symm))
    rw [List.forall₂_eq_eq_eq] at heq
    exact heq.symm
  refine ⟨hlast.finished r langs, specs, hspecs, ?_, fun mediaType s hs => ?_⟩
  · rw [Operation.declaredParameters_finished, hnames]
  obtain ⟨p, hp, htype, hdepicts⟩ := h.body.depicts hs
  obtain ⟨t, ht, hiff⟩ := hb.inlinesBody_iff hd hdepicts op.underIdentity hnames
  have hmarked := op.body?_finished r langs
  rw [hp] at hmarked
  refine ⟨_, t, hmarked, htype, ht, hiff.trans ?_⟩
  rw [List.map_eq_nil_iff, List.forall_mem_map]

end Decides

namespace Document

open Build Builder

variable {d : Document} {options : Options}

/-- The body of every operation in the data is its last parameter, and the only one that is a body. When
    it has a schema, it is inlined just when the operation has no other parameter, or when the
    schema resolves to an object none of whose properties has the name of another parameter,
    where the other parameters are those of the path as overridden by those of the operation. -/
theorem bodies_decided (hc : (Entries.keys d.componentsOrNone.schemas).Nodup)
    {data : CodeGenData} (h : (d.codeGenData options).value = .ok data) :
    ∃ r ops, d.finished options = .ok (r, ops) ∧
      data = Assembly.assemble d.info r ops d.vendorExtensions ∧ data.operations.Sublist ops ∧
      List.Forall₂ (DeclaredOperation.Decides d.componentsOrNone) d.declaredOperations ops := by
  obtain ⟨r, ops, hfinished, hdata⟩ := codeGenData_ok h
  refine ⟨r, ops, hfinished, hdata, hdata ▸ Assembly.keptOperations_sublist [] ops, ?_⟩
  obtain ⟨collected, b, flat, hrun, hflat, -, -, rfl⟩ := finished_ok hfinished
  obtain ⟨b₁, e, b₂, hadd, hcollect, hlink⟩ := buildGraph_ok hrun
  obtain ⟨hready, hb₂⟩ := collect_linkable hc hadd hcollect
  obtain ⟨-, hops⟩ := collect_represents hready hcollect
  obtain ⟨hlinkable, hle, -, -⟩ := hb₂.linkAll hlink
  have hlast : ∀ op ∈ collected, op.BodyLast := by
    intro op hop
    have hall := collect_each (R := fun _ _ op => op.BodyLast) (fun _ hbody => hbody)
      operation_bodyLast hready hcollect
    obtain ⟨-, -, hbody⟩ := exists_of_forall₂ hall hop
    exact hbody
  -- bodies are decided on the linked graph, once its composites are split
  have hboth := (List.forall₂_and_left collected d.declaredOperations).2 ⟨hlast, hops.flip⟩
  refine List.forall₂_map_right_iff.2 (hboth.flip.imp fun decl op ⟨hbody, hop⟩ => ?_)
  exact decides_finished hlinkable (Registry.decorates_flatten hflat) (hop.mono hle) hbody _

/-- A document whose two bodies are an owner by another name. A parameter of the path stands beside
    both, and that of the second operation has the name of a property. -/
def ownersDocument : Document where
  openapi := "3.0.0"
  info := { title := "Owners", version := "1" }
  components := some
    { schemas :=
        [("Owner", .inline
            { type := some (.single .object)
              properties := [("name", .inline { type := some (.single .string) })] }),
          ("Change", .ref "#/components/schemas/Owner" none)] }
  paths :=
    [("/owners/\x7bid\x7d",
      { parameters := [.inline { name := "id", place := .path }]
        post := some
          { operationId := some "changeOwner"
            requestBody := some (.inline
              { content := [("application/json",
                  { schema := some (.ref "#/components/schemas/Change" none) })] }) }
        put := some
          { operationId := some "replaceOwner"
            parameters := [.inline { name := "name", place := .query }]
            requestBody := some (.inline
              { content := [("application/json",
                  { schema := some (.ref "#/components/schemas/Change" none) })] }) } })]

theorem bodies_decided_owners : ∃ data ops,
    (ownersDocument.codeGenData {}).value = .ok data ∧ data.operations.Sublist ops ∧
      List.Forall₂ (DeclaredOperation.Decides ownersDocument.componentsOrNone)
        ownersDocument.declaredOperations ops ∧
      data.operations.map (fun op => op.body?.map (·.inlined)) = [some true, some false] := by
  obtain ⟨data, hdata⟩ := exists_eq_ok_of_isOk
    (show (ownersDocument.codeGenData {}).value.isOk = true by decide +kernel)
  obtain ⟨-, ops, -, -, hkept, hall⟩ := bodies_decided (by decide) hdata
  have hinlined : ((ownersDocument.codeGenData {}).value.toOption.map fun data =>
      data.operations.map fun op => op.body?.map (·.inlined)) = some [some true, some false] := by
    decide +kernel
  rw [hdata] at hinlined
  exact ⟨data, ops, hdata, hkept, hall, Option.some.inj hinlined⟩

end Document

end OpenApi
