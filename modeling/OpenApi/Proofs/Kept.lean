import OpenApi.Proofs.Finishing

set_option autoImplicit false

/-! # No operation is lost

With the check of assigned names on, all operations of a document end with names of their own, so that
none of them is dropped when the data is assembled, and each is found by its name:
`operations_kept`. -/

namespace OpenApi

/-! ## Distinct names -/

namespace Assembly

variable {ops : List Operation} {seen : List String}

/-- Operations with names of their own are all kept. -/
theorem keptOperations_of_nodup (hnodup : (ops.map (·.uniqueName)).Nodup)
    (hseen : ∀ op ∈ ops, op.uniqueName ∉ seen) :
    keptOperations seen ops = ops ∧ droppedOperations seen ops = [] := by
  induction ops generalizing seen with
  | nil => exact ⟨rfl, rfl⟩
  | cons op rest ih =>
      obtain ⟨hop, hrest⟩ := List.nodup_cons.1 hnodup
      obtain ⟨hfree, hseen⟩ := List.forall_mem_cons.1 hseen
      have hnew : ∀ o ∈ rest, o.uniqueName ∉ op.uniqueName :: seen := by
        intro o ho hmem
        rcases List.mem_cons.1 hmem with heq | hmem
        · exact hop (List.mem_map.2 ⟨o, ho, heq⟩)
        · exact hseen o ho hmem
      obtain ⟨hkept, hdropped⟩ := ih hrest hnew
      rw [keptOperations, if_neg hfree, droppedOperations, if_neg hfree]
      exact ⟨congrArg (op :: ·) hkept, hdropped⟩

end Assembly

/-- Among operations with names of their own, each is found by its name. -/
theorem find?_of_nodup {ops : List Operation} (hnodup : (ops.map (·.uniqueName)).Nodup)
    {op : Operation} (hop : op ∈ ops) : ops.find? (·.uniqueName = op.uniqueName) = some op :=
  (find?_eq_some_iff_of_nodup hnodup).2 ⟨hop, rfl⟩

/-! ## From the document to its operations -/

/-- An operation is that of a declared one. -/
structure DeclaredOperation.Yields (options : Options) (d : DeclaredOperation) (op : Operation) :
    Prop where
  path : op.path = d.path
  method : op.method = d.method
  operationId : op.operationId =
    Build.operationName options.naming d.method d.path d.spec.operationId
  tags : op.tags = distinct d.spec.tags
  vendorExtensions : op.vendorExtensions = d.spec.extra.extensions

namespace Build

variable {c : Components} {options : Options} {b b' : Builder}

theorem operation_yields {path : String} {method : Method} {shared : List (RefOr ParameterSpec)}
    {spec : OperationSpec} {op : Operation}
    (h : run (operation c options path method shared spec) b = (.ok op, b')) :
    DeclaredOperation.Yields options ⟨path, method, shared, spec⟩ op := by
  obtain ⟨name, specs, parameters, bodies, responses, b₁, b₂, b₃, rfl, -, -, -, -, -, rfl⟩ :=
    operation_ok h
  exact ⟨rfl, rfl, rfl, rfl, rfl⟩

/-- The operations that are collected are those of the document in its order. -/
theorem collect_yields {d : Document} {ops : List Operation}
    (h : run (collect d options) b = (.ok ops, b')) :
    List.Forall₂ (DeclaredOperation.Yields options) d.declaredOperations ops :=
  (collect_accumulates (R := fun _ => DeclaredOperation.Yields options) accumulates_true
    (fun _ _ hop => hop) (fun _ h => ⟨trivial, operation_yields h⟩) trivial h).2

end Build

/-- An operation that is finished is that of the same declared one. -/
theorem DeclaredOperation.Yields.finished {options : Options} {d : DeclaredOperation} {op : Operation}
    (h : d.Yields options op) (r : Registry) (langs : List Language) :
    d.Yields options (op.finished r langs) :=
  ⟨h.path, h.method, h.operationId, h.tags, h.vendorExtensions⟩

/-- The operations of declared ones repeat no tag. -/
theorem DeclaredOperation.nodup_tags {options : Options} {declared : List DeclaredOperation}
    {ops : List Operation} (h : List.Forall₂ (DeclaredOperation.Yields options) declared ops) :
    ∀ op ∈ ops, op.tags.Nodup := by
  intro op hop
  obtain ⟨decl, -, hdecl⟩ := exists_of_forall₂ h hop
  rw [hdecl.tags]
  exact nodup_distinct _

namespace Document

variable {d : Document} {options : Options}

/-- The finished operations of a document are those that it declares, and with the check of assigned
    names on they have names of their own. -/
theorem finished_operations {r : Registry} {ops : List Operation}
    (h : d.finished options = .ok (r, ops)) :
    List.Forall₂ (DeclaredOperation.Yields options) d.declaredOperations ops ∧
      (options.verifyDeduplicatedIds = true → (ops.map (·.uniqueName)).Nodup) := by
  obtain ⟨collected, b, flat, hrun, -, -, hnamed, rfl⟩ := finished_ok h
  obtain ⟨b₁, e, b₂, -, hcollect, -⟩ := buildGraph_ok hrun
  have hyields := Build.collect_yields hcollect
  refine ⟨List.forall₂_map_right_iff.2 (hyields.imp fun _ _ hop => hop.finished _ _),
    fun hverify => ?_⟩
  rw [hverify] at hnamed
  rw [List.map_map]
  exact ((Operation.identifyAll_isOk_iff (DeclaredOperation.nodup_tags hyields)).1 hnamed).2

/-- With the check of assigned names on, operations get their identities exactly when no two without an
    assigned name have one id under one tag and no two end with one name. The data of a document then
    has one operation for each that is declared, in the order of the document, none is dropped, and
    each is found by its name. -/
theorem operations_kept :
    (∀ ops : List Operation, (∀ op ∈ ops, op.tags.Nodup) →
      ((∃ named, (Operation.identifyAll true ops).value = .ok named) ↔
        (ops.Pairwise fun a b => ¬ a.SharesTaggedId b) ∧
          (ops.map Operation.identityName).Nodup) ∧
      ∀ named, (Operation.identifyAll true ops).value = .ok named →
        named.map (·.uniqueName) = ops.map Operation.identityName) ∧
    ∀ (d : Document) (options : Options) (data : CodeGenData),
      options.verifyDeduplicatedIds = true → (d.codeGenData options).value = .ok data →
      List.Forall₂ (DeclaredOperation.Yields options) d.declaredOperations data.operations ∧
      (∃ r ops, d.finished options = .ok (r, ops) ∧ data.operations = ops ∧
        Assembly.droppedOperations [] ops = []) ∧
      ∀ op ∈ data.operations, data.operation? op.uniqueName = some op := by
  refine ⟨fun ops htags => ⟨Operation.identifyAll_isOk_iff htags, fun named h => ?_⟩,
    fun d options data hverify h => ?_⟩
  · rw [Operation.identifyFrom_named h, List.map_map]
    rfl
  · obtain ⟨r, ops, hfinished, rfl⟩ := codeGenData_ok h
    obtain ⟨hyields, hnodup⟩ := finished_operations hfinished
    have hnone : ∀ op ∈ ops, op.uniqueName ∉ ([] : List String) := fun _ _ => List.not_mem_nil
    obtain ⟨hkept, hdropped⟩ := Assembly.keptOperations_of_nodup (hnodup hverify) hnone
    have hops : (Assembly.assemble d.info r ops d.vendorExtensions).operations = ops := hkept
    refine ⟨hops.symm ▸ hyields, ⟨r, ops, hfinished, hops, hdropped⟩, fun op hop => ?_⟩
    rw [CodeGenData.operation?, hops]
    rw [hops] at hop
    exact find?_of_nodup (hnodup hverify) hop

/-- The operation on a tree under a tag. -/
def treeOperation (method : Method) (tag : String) : Operation where
  path := "/tree"
  method := method
  operationId := "tree"
  name := CasedName.ofString "tree"
  uniqueName := "tree"
  tags := [tag]

/-- A document with two paths. Two operations have one id under different tags, and of two others that
    have one id and no tags, one has an assigned name. -/
def shelvesDocument : Document where
  openapi := "3.0.0"
  info := { title := "Shelves", version := "1" }
  paths :=
    [("/shelves",
      { trace := some { operationId := some "look", tags := ["probes"] }
        post := some { operationId := some "look", tags := ["shelves", "changes"] } }),
      ("/books",
      { head := some
          { operationId := some "list"
            extra := [(Operation.assignedNameKey, .string "countBooks")] }
        get := some { operationId := some "list" } })]

theorem operations_kept_shelves :
    (∃ named, (Operation.identifyAll true
        [treeOperation .get "read", treeOperation .put "write"]).value = .ok named ∧
      named.map (·.uniqueName) = ["read.tree", "write.tree"]) ∧
    ∃ data, (shelvesDocument.codeGenData {}).value = .ok data ∧
      List.Forall₂ (DeclaredOperation.Yields {}) shelvesDocument.declaredOperations data.operations ∧
      data.operations.map (fun op => (op.path, op.method, op.uniqueName)) =
        [("/shelves", .post, "shelves.look"), ("/shelves", .trace, "probes.look"),
          ("/books", .get, "list"), ("/books", .head, "countBooks")] ∧
      ∀ op ∈ data.operations, data.operation? op.uniqueName = some op := by
  refine ⟨?_, ?_⟩
  · obtain ⟨hiff, hnames⟩ :=
      operations_kept.1 [treeOperation .get "read", treeOperation .put "write"] (by decide)
    obtain ⟨named, hnamed⟩ := hiff.2 ⟨by decide, by decide⟩
    exact ⟨named, hnamed, (hnames named hnamed).trans (by decide)⟩
  · obtain ⟨data, hdata⟩ := exists_eq_ok_of_isOk
      (show (shelvesDocument.codeGenData {}).value.isOk = true by decide +kernel)
    obtain ⟨hyields, -, hfound⟩ := operations_kept.2 shelvesDocument {} data rfl hdata
    have hnames : ((shelvesDocument.codeGenData {}).value.toOption.map fun data =>
        data.operations.map fun op => (op.path, op.method, op.uniqueName)) =
          some [("/shelves", .post, "shelves.look"), ("/shelves", .trace, "probes.look"),
            ("/books", .get, "list"), ("/books", .head, "countBooks")] := by decide +kernel
    rw [hdata] at hnames
    exact ⟨data, hdata, hyields, Option.some.inj hnames, hfound⟩

end Document

end OpenApi
