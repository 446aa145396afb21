import OpenApi.Proofs.Services

set_option autoImplicit false

/-! # Names under which operations are rendered

An operation is rendered under its assigned name, or under its id if it has none. With the check of
assigned names on, unique names differ, but those begin with a tag where the rendered names do not:
inside the service of a tag an operation can have the id of another assigned to it. Nothing else makes
two operations of a service have one name: `Document.codeGenData_rendered`. -/

namespace OpenApi

namespace Operation

variable {a b : Operation}

/-- The name under which an operation is rendered: the assigned one, and otherwise its id. -/
def renderedName (op : Operation) : String := op.assignedName?.getD op.operationId

/-- The name assigned to `a` is the id of `b`, which has none assigned. -/
def AssignedIdOf (a b : Operation) : Prop :=
  a.assignedName? = some b.operationId ∧ b.assignedName? = none

theorem renderedName_of_some {op : Operation} {name : String} (h : op.assignedName? = some name) :
    op.renderedName = name := by
  rw [renderedName, h, Option.getD_some]

theorem renderedName_of_none {op : Operation} (h : op.assignedName? = none) :
    op.renderedName = op.operationId := by
  rw [renderedName, h, Option.getD_none]

/-- Without tags an operation is rendered under its unique name. -/
theorem renderedName_of_untagged {op : Operation} (h : op.tags = []) :
    op.renderedName = op.identityName := by
  rw [renderedName, identityName, ownName_of_untagged h]

theorem AssignedIdOf.renderedName_eq (h : a.AssignedIdOf b) : a.renderedName = b.renderedName := by
  rw [renderedName_of_some h.1, renderedName_of_none h.2]

theorem SharesTaggedId.symm (h : a.SharesTaggedId b) : b.SharesTaggedId a := by
  obtain ⟨ha, hb, hid, tag, hatag, hbtag⟩ := h
  exact ⟨hb, ha, hid.symm, tag, hbtag, hatag⟩

theorem Compatible.symm (h : a.Compatible b) : b.Compatible a :=
  ⟨fun hshares => h.tagged hshares.symm, h.named.symm⟩

/-- Compatible operations that share a tag are rendered under one name exactly when the id of one is
    assigned to the other. -/
theorem Compatible.renderedName_eq_iff (h : a.Compatible b) {tag : String} (ha : tag ∈ a.tags)
    (hb : tag ∈ b.tags) :
    a.renderedName = b.renderedName ↔ a.AssignedIdOf b ∨ b.AssignedIdOf a := by
  constructor
  · intro heq
    cases haname : a.assignedName? with
    | none =>
        rw [renderedName_of_none haname] at heq
        cases hbname : b.assignedName? with
        | none =>
            rw [renderedName_of_none hbname] at heq
            exact absurd ⟨haname, hbname, heq, tag, ha, hb⟩ h.tagged
        | some name =>
            rw [renderedName_of_some hbname] at heq
            exact .inr ⟨heq ▸ hbname, haname⟩
    | some name =>
        rw [renderedName_of_some haname] at heq
        cases hbname : b.assignedName? with
        | none =>
            rw [renderedName_of_none hbname] at heq
            exact .inl ⟨heq ▸ haname, hbname⟩
        | some other =>
            rw [renderedName_of_some hbname] at heq
            refine absurd ?_ h.named
            rw [identityName_of_some haname, identityName_of_some hbname, heq]
  · rintro (h | h)
    · exact h.renderedName_eq
    · exact h.renderedName_eq.symm

/-- In a list of compatible operations any two are, whichever comes first. -/
theorem compatible_of_ne {ops : List Operation} (h : ops.Pairwise Compatible) {i j : Nat}
    (hij : i ≠ j) (hi : ops[i]? = some a) (hj : ops[j]? = some b) : a.Compatible b := by
  obtain ⟨hilt, rfl⟩ := List.getElem?_eq_some_iff.1 hi
  obtain ⟨hjlt, rfl⟩ := List.getElem?_eq_some_iff.1 hj
  rcases Nat.lt_or_gt_of_ne hij with hlt | hlt
  · exact List.pairwise_iff_getElem.1 h i j hilt hjlt hlt
  · exact (List.pairwise_iff_getElem.1 h j i hjlt hilt hlt).symm

end Operation

namespace Document

variable {d : Document} {options : Options}

/-- Finished operations have the names that they need, and with the check of assigned names on they are
    compatible. -/
theorem finished_identified {r : Registry} {ops : List Operation}
    (h : d.finished options = .ok (r, ops)) :
    (∀ op ∈ ops, op.name = CasedName.ofString op.renderedName) ∧
      (options.verifyDeduplicatedIds = true → ops.Pairwise Operation.Compatible) := by
  obtain ⟨collected, b, flat, hrun, -, -, hnamed, rfl⟩ := finished_ok h
  obtain ⟨b₁, e, b₂, -, hcollect, -⟩ := buildGraph_ok hrun
  constructor
  · intro op hop
    obtain ⟨collectedOp, -, rfl⟩ := List.mem_map.1 hop
    rfl
  · intro hverify
    rw [hverify] at hnamed
    have hyields := Build.collect_yields hcollect
    obtain ⟨htagged, hnames⟩ :=
      (Operation.identifyAll_isOk_iff (DeclaredOperation.nodup_tags hyields)).1 hnamed
    rw [List.Nodup, List.pairwise_map] at hnames
    exact List.pairwise_map.2 (htagged.imp₂ (fun _ _ htagged hne => ⟨htagged, hne⟩) hnames)

/-- With the check of assigned names on, the data of a document renders each operation under its
    assigned name or its id. Two operations of one service then have one name exactly when the service
    has a tag and the id of one operation, which has no name assigned, is assigned to the other. -/
theorem codeGenData_rendered {data : CodeGenData} (hverify : options.verifyDeduplicatedIds = true)
    (h : (d.codeGenData options).value = .ok data) :
    (∀ op ∈ data.operations, op.name = CasedName.ofString op.renderedName) ∧
      ∀ s ∈ data.services, ∀ i ∈ s.operations, ∀ j ∈ s.operations, i ≠ j →
        ∃ a b, data.operations[i]? = some a ∧ data.operations[j]? = some b ∧
          (a.name.text = b.name.text ↔ s.tag ≠ none ∧ (a.AssignedIdOf b ∨ b.AssignedIdOf a)) := by
  have hgrouped := grouped_of_codeGenData h
  obtain ⟨r, ops, hfinished, rfl⟩ := codeGenData_ok h
  obtain ⟨hnames, hcompatible⟩ := finished_identified hfinished
  have hname : ∀ op ∈ Assembly.keptOperations [] ops,
      op.name = CasedName.ofString op.renderedName :=
    fun op hop => hnames op (Assembly.mem_keptOperations hop)
  have hkept : (Assembly.keptOperations [] ops).Pairwise Operation.Compatible :=
    (hcompatible hverify).sublist (Assembly.keptOperations_sublist [] ops)
  refine ⟨hname, fun s hs i hi j hj hij => ?_⟩
  obtain ⟨a, ha, hagroup⟩ := ((hgrouped.lists hs).mem_iff i).1 hi
  obtain ⟨b, hb, hbgroup⟩ := ((hgrouped.lists hs).mem_iff j).1 hj
  have hab := Operation.compatible_of_ne hkept hij ha hb
  refine ⟨a, b, ha, hb, ?_⟩
  rw [hname a (List.mem_of_getElem? ha), hname b (List.mem_of_getElem? hb)]
  show a.renderedName = b.renderedName ↔ _
  cases htag : s.tag with
  | none =>
      rw [htag, Operation.none_mem_groups] at hagroup hbgroup
      refine iff_of_false (fun heq => hab.named ?_) fun hnone => hnone.1 rfl
      rw [← Operation.renderedName_of_untagged hagroup, heq,
        Operation.renderedName_of_untagged hbgroup]
  | some tag =>
      rw [htag, Operation.some_mem_groups] at hagroup hbgroup
      rw [hab.renderedName_eq_iff hagroup hbgroup]
      exact (and_iff_right nofun).symm

end Document

/-! ## A service with one name twice -/

/-- Operations of one tag, the id of the first of which is assigned to the second. -/
def usersDocument : Document where
  openapi := "3.0.0"
  info := { title := "Users", version := "1" }
  paths :=
    [("/users", { get := some { operationId := some "list", tags := ["users"] } }),
     ("/people",
      { get := some
          { operationId := some "people"
            tags := ["users"]
            extra := [(Operation.assignedNameKey, .string "list")] } })]

namespace Document

/-- The data of the document has both operations in one service and under one name. -/
theorem usersDocument_service :
    ∃ data, (usersDocument.codeGenData { verifyDeduplicatedIds := true }).value = .ok data ∧
      ∃ s ∈ data.services, ∀ i < 2, i ∈ s.operations ∧
        ∃ op, data.operations[i]? = some op ∧ op.name.text = "list" := by
  obtain ⟨data, hdata, hrows⟩ := exists_ok_of_map
    (f := fun data => data.operations.map fun op => (op.tags, op.name.text))
    (y := List.replicate 2 (["users"], "list"))
    (show (usersDocument.codeGenData { verifyDeduplicatedIds := true }).value.toOption.map _ = _
      by decide +kernel)
  have hop : ∀ i < 2, ∃ op, data.operations[i]? = some op ∧ "users" ∈ op.tags ∧
      op.name.text = "list" := by
    intro i hi
    have hrow : data.operations[i]?.map (fun op => (op.tags, op.name.text))
        = some (["users"], "list") := by
      rw [← List.getElem?_map, hrows, List.getElem?_replicate, if_pos hi]
    obtain ⟨op, hop, hpair⟩ := Option.map_eq_some_iff.1 hrow
    obtain ⟨htags, hname⟩ := Prod.mk.inj hpair
    exact ⟨op, hop, by rw [htags]; exact List.mem_cons_self, hname⟩
  obtain ⟨first, hfirst, htag, -⟩ := hop 0 (by decide)
  obtain ⟨s, hs, -, hmem⟩ := (grouped_of_codeGenData hdata).exists_service hfirst htag
  refine ⟨data, hdata, s, hs, fun i hi => ?_⟩
  obtain ⟨op, hi, htag, hname⟩ := hop i hi
  exact ⟨hmem i op hi htag, op, hi, hname⟩

/-- Two operations of one service have one name although assigned names are checked. -/
theorem codeGenData_rendered_twice :
    ∃ data, (usersDocument.codeGenData { verifyDeduplicatedIds := true }).value = .ok data ∧
      ∃ s ∈ data.services, ∃ i ∈ s.operations, ∃ j ∈ s.operations, i ≠ j ∧
        ∃ a b, data.operations[i]? = some a ∧ data.operations[j]? = some b ∧
          a.name.text = b.name.text := by
  obtain ⟨data, hdata, s, hs, hmem⟩ := usersDocument_service
  obtain ⟨hi, a, ha, haname⟩ := hmem 0 (by decide)
  obtain ⟨hj, b, hb, hbname⟩ := hmem 1 (by decide)
  exact ⟨data, hdata, s, hs, 0, hi, 1, hj, by decide, a, b, ha, hb, haname.trans hbname.symm⟩

theorem codeGenData_rendered_users :
    ∃ data, (usersDocument.codeGenData { verifyDeduplicatedIds := true }).value = .ok data ∧
      ∃ s ∈ data.services, s.tag ≠ none ∧
        ∃ a b, data.operations[0]? = some a ∧ data.operations[1]? = some b ∧
          (a.AssignedIdOf b ∨ b.AssignedIdOf a) := by
  obtain ⟨data, hdata, s, hs, hmem⟩ := usersDocument_service
  obtain ⟨hi, a, ha, haname⟩ := hmem 0 (by decide)
  obtain ⟨hj, b, hb, hbname⟩ := hmem 1 (by decide)
  obtain ⟨a', b', ha', hb', hiff⟩ :=
    (codeGenData_rendered rfl hdata).2 s hs 0 hi 1 hj (by decide)
  cases ha.symm.trans ha'
  cases hb.symm.trans hb'
  obtain ⟨htag, hassigned⟩ := hiff.1 (haname.trans hbname.symm)
  exact ⟨data, hdata, s, hs, htag, a, b, ha, hb, hassigned⟩

end Document

end OpenApi
