import OpenApi.CodeGen.Build
import OpenApi.Proofs.Decorating
import OpenApi.Proofs.Identities
import OpenApi.Proofs.Reachable

set_option autoImplicit false

/-! # From a document to its data

`Document.finished` is the graph and the operations from which the data of a document is assembled, and
`finished_ok` takes them apart: the graph is linked and then decorated, and each operation is collected
and then finished. `Registry.Completes` is what holds of such a graph. -/

namespace OpenApi

/-! ## Finished operations -/

namespace Operation

/-- An operation with its identity, its result, its body and its names. -/
def finished (r : Registry) (langs : List Language) (op : Operation) : Operation :=
  (op.underIdentity.settle r).mapLanguages langs

theorem settle?_ok {r : Registry} {op op' : Operation} (h : op.settle? r = .ok op') :
    op' = op.settle r := by
  unfold settle? at h
  split at h
  · cases h
  · cases h
    rfl

theorem mapM_settle?_ok {r : Registry} {ops ops' : List Operation}
    (h : ops.mapM (settle? r) = .ok ops') : ops' = ops.map (settle r) := by
  induction ops generalizing ops' with
  | nil =>
      cases h
      rfl
  | cons op rest ih =>
      rw [List.mapM_cons] at h
      obtain ⟨op', hop, h⟩ := bind_ok_iff.1 h
      obtain ⟨rest', hrest, h⟩ := bind_ok_iff.1 h
      cases h
      rw [List.map_cons, ← settle?_ok hop, ← ih hrest]

/-! ## Bodies -/

variable {inlined : ModelId → Bool}

/-- Marking the body leaves the declared parameters as they are. -/
theorem filter_markBody (inlined : ModelId → Bool) (ps : List Parameter) :
    (markBody inlined ps).filter (·.location ≠ .body) = ps.filter (·.location ≠ .body) := by
  induction ps with
  | nil => rfl
  | cons p rest ih =>
      rw [markBody]
      split
      · next h => simp [h]
      · next h => simpa [h] using ih

/-- Marking the body marks the first one. -/
theorem find?_markBody (inlined : ModelId → Bool) (ps : List Parameter) :
    (markBody inlined ps).find? (·.location = .body) =
      (ps.find? (·.location = .body)).map fun p => { p with inlined := inlined p.model } := by
  induction ps with
  | nil => rfl
  | cons p rest ih =>
      rw [markBody]
      split
      · next h => simp [h]
      · next h => simpa [h] using ih

theorem mem_markBody {ps : List Parameter} {p : Parameter} (h : p ∈ markBody inlined ps) :
    ∃ q ∈ ps, p.model = q.model := by
  induction ps with
  | nil => cases h
  | cons q rest ih =>
      rw [markBody] at h
      split at h
      · rcases List.mem_cons.1 h with rfl | h
        · exact ⟨q, List.mem_cons_self, rfl⟩
        · exact ⟨p, List.mem_cons_of_mem _ h, rfl⟩
      · rcases List.mem_cons.1 h with rfl | h
        · exact ⟨p, List.mem_cons_self, rfl⟩
        · obtain ⟨q', hq', hmodel⟩ := ih h
          exact ⟨q', List.mem_cons_of_mem _ hq', hmodel⟩

theorem declaredParameters_finished (op : Operation) (r : Registry) (langs : List Language) :
    (op.finished r langs).declaredParameters = op.declaredParameters :=
  filter_markBody _ op.parameters

/-- Whether the body is inlined is decided when an operation is finished. -/
theorem body?_finished (op : Operation) (r : Registry) (langs : List Language) :
    (op.finished r langs).body? = op.body?.map fun p =>
      { p with inlined := op.underIdentity.inlinesBody r p.model } :=
  find?_markBody _ op.parameters

end Operation

namespace View

variable {c : Components} {v : View}

theorem RepresentsBody.inlined {r : Option (RefOr RequestBody)} {p : Option Parameter}
    (h : v.RepresentsBody c r p) (inlined : ModelId → Bool) :
    v.RepresentsBody c r (p.map fun p => { p with inlined := inlined p.model }) := by
  cases h with
  | undeclared => exact .undeclared
  | empty hspec hnone => exact .empty hspec hnone
  | content hspec hsome htype hstands => exact .content hspec hsome htype hstands

/-- A finished operation stands for what it stood for. -/
theorem RepresentsOperation.finished {d : DeclaredOperation} {op : Operation} (r : Registry)
    (langs : List Language) (h : v.RepresentsOperation c d op) :
    v.RepresentsOperation c d (op.finished r langs) where
  path := h.path
  method := h.method
  tags := h.tags
  parameters := by
    obtain ⟨specs, hspecs, hall⟩ := h.parameters
    refine ⟨specs, hspecs, ?_⟩
    rwa [Operation.declaredParameters_finished]
  body := by
    rw [Operation.body?_finished]
    exact h.body.inlined _
  responses := h.responses
  nodes p hp := by
    obtain ⟨q, hq, hmodel⟩ := Operation.mem_markBody hp
    exact hmodel ▸ h.nodes q hq

end View

/-! ## Finished graphs -/

/-- A graph in which everything is linked, and which is then decorated. -/
structure Registry.Completes (c : Components) (b : Builder) (r : Registry) : Prop where
  linkable : b.Linkable c
  closed : ∀ i, ¬ b.Unlinked i
  decorates : b.registry.Decorates r

namespace Registry.Completes

variable {c : Components} {b : Builder} {r : Registry}

/-- Nothing waits in a finished graph. -/
theorem view_le (h : r.Completes c b) : b.whole.Le c r.view where
  node hm := (h.decorates.view_le (c := c)).node hm.2
  link hl := (h.decorates.view_le (c := c)).link hl
  named hn := (h.decorates.view_le (c := c)).named hn
  waits hs := by
    obtain ⟨hint, hsource⟩ := hs
    exact absurd (h.linkable.complete.ready.sound.sources hsource) (h.closed _)

/-- References in a finished graph end where nothing refers any further. -/
theorem settled_canonical (h : r.Completes c b) {id : ModelId} (hid : id < r.nodes.size) :
    r.Settled (r.canonical id) := by
  rw [h.decorates.size] at hid
  obtain ⟨m, hm⟩ := exists_node?_of_lt hid
  rw [h.decorates.canonical_eq]
  exact h.decorates.settled (h.linkable.complete.resolved.settled_canonical hm)

end Registry.Completes

/-! ## Stages -/

theorem Logged.andThen_value {ε α β : Type} (first : Logged (Except ε α))
    (next : α → Logged (Except ε β)) :
    (first.andThen next).value = first.value >>= fun a => (next a).value := by
  unfold Logged.andThen
  cases first.value with
  | error e => rfl
  | ok a => rfl

namespace Document

open Build Builder

variable {d : Document} {options : Options} {b : Builder} {ops : List Operation}

/-- The graph and the operations of a document before they are assembled. -/
def finished (d : Document) (options : Options) : Except BuildError (Registry × List Operation) := do
  let (r, ops) ← (d.graphOf options).value
  let r ← r.flatten.value
  let ops ← (Operation.finalize r options.verifyDeduplicatedIds ops).value
  pure (r.mapLanguages options.languages, ops.map (Operation.mapLanguages options.languages))

/-- The data of a document is assembled from its finished graph and operations. -/
theorem codeGenData_value (d : Document) (options : Options) :
    (d.codeGenData options).value = d.finished options >>= fun (r, ops) =>
      .ok (Assembly.assemble d.info r ops d.vendorExtensions) := by
  simp only [codeGenData, finished, Logged.andThen_value, bind_assoc]
  rfl

theorem codeGenData_ok {data : CodeGenData} (h : (d.codeGenData options).value = .ok data) :
    ∃ r ops, d.finished options = .ok (r, ops) ∧
      data = Assembly.assemble d.info r ops d.vendorExtensions := by
  rw [codeGenData_value] at h
  obtain ⟨⟨r, ops⟩, hfinished, h⟩ := bind_ok_iff.1 h
  cases h
  exact ⟨r, ops, hfinished, rfl⟩

theorem graphOf_ok {r : Registry} (h : (d.graphOf options).value = .ok (r, ops)) :
    ∃ b, run (d.buildGraph options) {} = (.ok ops, b) ∧ b.registry = r := by
  unfold graphOf at h
  rcases hrun : run (d.buildGraph options) {} with ⟨e | collected, b⟩
  · rw [hrun] at h
    cases h
  · rw [hrun] at h
    cases h
    exact ⟨b, rfl, rfl⟩

/-- The stages in which the graph is built. -/
theorem buildGraph_ok (h : run (d.buildGraph options) {} = (.ok ops, b)) :
    ∃ b₁ e b₂, run (addComponents d.componentsOrNone) {} = (.ok (), b₁) ∧
      run (collect d options) (b₁.noted e) = (.ok ops, b₂) ∧
      run (linkAll d.componentsOrNone) b₂ = (.ok (), b) := by
  obtain ⟨⟨⟩, b₁, hadd, h⟩ := run_bind_ok h
  obtain ⟨r, b₁', hgraph, h⟩ := run_bind_ok h
  cases hgraph
  obtain ⟨_, b₂, hnote, h⟩ := run_bind_ok h
  obtain rfl := run_note_ok hnote
  obtain ⟨collected, b₃, hcollect, h⟩ := run_bind_ok h
  obtain ⟨⟨⟩, b₄, hlink, h⟩ := run_bind_ok h
  obtain ⟨rfl, rfl⟩ := run_pure_ok h
  exact ⟨b₁, _, b₃, hadd, hcollect, hlink⟩

/-- The graph is linkable once the components and the operations are added. -/
theorem collect_linkable (hc : (Entries.keys d.componentsOrNone.schemas).Nodup) {b₁ b₂ : Builder}
    {e : Event} (hadd : run (addComponents d.componentsOrNone) {} = (.ok (), b₁))
    (hcollect : run (collect d options) (b₁.noted e) = (.ok ops, b₂)) :
    (b₁.noted e).Ready d.componentsOrNone ∧ b₂.Linkable d.componentsOrNone := by
  have hb₁ : (b₁.noted e).Linkable d.componentsOrNone :=
    (linkable_of_addComponents hc hadd).grown (.single (.note e))
  obtain ⟨hsteps, -⟩ := collect_represents hb₁.complete.ready hcollect
  exact ⟨hb₁.complete.ready, hb₁.grown hsteps⟩

/-- The stages in which the graph and the operations are finished. -/
theorem finished_ok {r : Registry} (h : d.finished options = .ok (r, ops)) :
    ∃ collected b flat, run (d.buildGraph options) {} = (.ok collected, b) ∧
      b.registry.flatten.value = .ok flat ∧ r = flat.mapLanguages options.languages ∧
      (∃ named, (Operation.identifyAll options.verifyDeduplicatedIds collected).value = .ok named) ∧
      ops = collected.map (Operation.finished flat options.languages) := by
  obtain ⟨⟨r₀, collected⟩, hgraph, h⟩ := bind_ok_iff.1 h
  obtain ⟨b, hrun, rfl⟩ := graphOf_ok hgraph
  obtain ⟨flat, hflat, h⟩ := bind_ok_iff.1 h
  obtain ⟨settled, hfinal, h⟩ := bind_ok_iff.1 h
  cases h
  rw [Operation.finalize, Logged.andThen_value] at hfinal
  obtain ⟨named, hnamed, hsettled⟩ := bind_ok_iff.1 hfinal
  refine ⟨collected, b, flat, hrun, hflat, rfl, ⟨named, hnamed⟩, ?_⟩
  rw [Operation.mapM_settle?_ok hsettled, Operation.identifyFrom_named hnamed, List.map_map,
    List.map_map]
  rfl

/-- A finished graph represents the components, and the finished operations those of the document. -/
theorem finished_represents (hc : (Entries.keys d.componentsOrNone.schemas).Nodup) {r : Registry}
    (h : d.finished options = .ok (r, ops)) :
    (∃ b, r.Completes d.componentsOrNone b) ∧
      List.Forall₂ (r.view.RepresentsOperation d.componentsOrNone) d.declaredOperations ops := by
  obtain ⟨collected, b, flat, hrun, hflat, rfl, -, rfl⟩ := finished_ok h
  obtain ⟨b₁, e, b₂, hadd, hcollect, hlink⟩ := buildGraph_ok hrun
  -- components, operations, links, decoration: each stage keeps what the one before it has
  obtain ⟨hready, hb₂⟩ := collect_linkable hc hadd hcollect
  obtain ⟨-, hops⟩ := collect_represents hready hcollect
  obtain ⟨hlinkable, hle, -, hclosed⟩ := hb₂.linkAll hlink
  have hcompletes : (flat.mapLanguages options.languages).Completes d.componentsOrNone b :=
    ⟨hlinkable, hclosed,
      (Registry.decorates_flatten hflat).trans (Registry.decorates_mapLanguages _ _)⟩
  refine ⟨⟨b, hcompletes⟩, List.forall₂_map_right_iff.2 (hops.imp fun _ _ hop => ?_)⟩
  exact (hop.mono (hle.trans hcompletes.view_le)).finished _ _

/-- The data of a document, in which components have distinct names as keys of a map do, represents it.
    Each component has a model that refers to the target of a reference or says what the component
    says, and the nodes of the parameters, bodies and responses of the operations, which are those of
    the document in its order, stand for the schemas that were declared there. -/
theorem codeGenData_represents (hc : (Entries.keys d.componentsOrNone.schemas).Nodup)
    {data : CodeGenData} (h : (d.codeGenData options).value = .ok data) :
    ∃ r ops, d.finished options = .ok (r, ops) ∧
      data = Assembly.assemble d.info r ops d.vendorExtensions ∧
      (∀ n s, (n, s) ∈ d.componentsOrNone.schemas → r.view.IsComponent d.componentsOrNone n s) ∧
      List.Forall₂ (r.view.RepresentsOperation d.componentsOrNone) d.declaredOperations ops := by
  obtain ⟨r, ops, hfinished, hdata⟩ := codeGenData_ok h
  obtain ⟨⟨b, hr⟩, hops⟩ := finished_represents hc hfinished
  refine ⟨r, ops, hfinished, hdata, fun n s hs => ?_, hops⟩
  exact (hr.linkable.complete.components hs).mono hr.view_le

end Document

/-- A document that reads and replaces trees. The two operations have one id under different tags. -/
def treeDocument : Document where
  openapi := "3.0.0"
  info := { title := "Trees", version := "1" }
  components := some treeComponents
  paths :=
    [("/tree",
      { get := some
          { operationId := some "tree"
            tags := ["read"]
            responses := [("200", .inline
              { content := [("application/json",
                  { schema := some (.ref "#/components/schemas/Alias" none) })] })] }
        put := some
          { operationId := some "tree"
            tags := ["write"]
            requestBody := some (.inline
              { content := [("application/json",
                  { schema := some (.inline
                      { oneOf := [.ref "#/components/schemas/Tree" none] }) })] }) } })]

theorem Document.codeGenData_represents_tree : ∃ data r ops,
    (treeDocument.codeGenData {}).value = .ok data ∧
      data = Assembly.assemble treeDocument.info r ops [] ∧
      (∀ n s, (n, s) ∈ treeComponents.schemas → r.view.IsComponent treeComponents n s) ∧
      List.Forall₂ (r.view.RepresentsOperation treeComponents) treeDocument.declaredOperations ops ∧
      ops.map (fun op => (op.path, op.method, op.parameters.length, op.responses.length)) =
        [("/tree", .get, 0, 1), ("/tree", .put, 1, 0)] := by
  obtain ⟨data, hdata⟩ := exists_eq_ok_of_isOk
    (show (treeDocument.codeGenData {}).value.isOk = true by decide +kernel)
  obtain ⟨r, ops, hfinished, hassembled, hcomponents, hops⟩ :=
    codeGenData_represents (by decide) hdata
  have hparts : ((treeDocument.finished {}).toOption.map fun (_, ops) => ops.map fun op =>
      (op.path, op.method, op.parameters.length, op.responses.length)) =
        some [("/tree", .get, 0, 1), ("/tree", .put, 1, 0)] := by decide +kernel
  rw [hfinished] at hparts
  exact ⟨data, r, ops, hdata, hassembled, hcomponents, hops, Option.some.inj hparts⟩

end OpenApi
