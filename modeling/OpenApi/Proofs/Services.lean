import Mathlib.Data.Finset.Card
import OpenApi.Proofs.ByteOrder
import OpenApi.Proofs.Closed
import OpenApi.Proofs.Kept

set_option autoImplicit false

/-! # Services group operations by tag

Every operation stands in one service for each of its tags, and one without tags in the service that
has none. `CodeGenData.Grouped` says this of the positions that some data lists, and
`Document.codeGenData_grouped` that it holds of the data of every document, in which the tags are those
that the document declares, each counted once. -/

namespace OpenApi

/-! ## Lists of positions -/

/-- The positions of the operations with a property, each once and in ascending order. -/
structure Lists (ops : List Operation) (p : Operation → Prop) (positions : List Nat) : Prop where
  ascending : positions.Pairwise (· < ·)
  mem_iff : ∀ i, i ∈ positions ↔ ∃ op, ops[i]? = some op ∧ p op

namespace Lists

variable {ops : List Operation} {p : Operation → Prop} {positions : List Nat}

theorem mem_iff_of_getElem? (h : Lists ops p positions) {i : Nat} {op : Operation}
    (hop : ops[i]? = some op) : i ∈ positions ↔ p op := by
  rw [h.mem_iff, hop]
  simp

theorem eq_nil_iff (h : Lists ops p positions) : positions = [] ↔ ∀ op ∈ ops, ¬ p op := by
  rw [List.eq_nil_iff_forall_not_mem]
  constructor
  · intro hnone op hop hp
    obtain ⟨i, hi⟩ := List.mem_iff_getElem?.1 hop
    exact hnone i ((h.mem_iff_of_getElem? hi).2 hp)
  · intro hnone i hi
    obtain ⟨op, hop, hp⟩ := (h.mem_iff i).1 hi
    exact hnone op (List.mem_of_getElem? hop) hp

end Lists

namespace Assembly

variable {ops : List Operation}

/-- Going through the operations in order and keeping some lists the positions of these. -/
theorem lists_filter_zipIdx (ops : List Operation) (p : Operation → Prop) [DecidablePred p] :
    Lists ops p ((ops.zipIdx.filter fun e => p e.1).map Prod.snd) where
  ascending := by
    have hall : (ops.zipIdx.map Prod.snd).Pairwise (· < ·) := by
      rw [List.zipIdx_map_snd]
      exact List.pairwise_lt_range' 1
    exact hall.sublist (List.filter_sublist.map Prod.snd)
  mem_iff i := by
    constructor
    · intro hi
      obtain ⟨⟨op, j⟩, he, rfl⟩ := List.mem_map.1 hi
      obtain ⟨hmem, hp⟩ := List.mem_filter.1 he
      exact ⟨op, List.mem_zipIdx_iff_getElem?.1 hmem, of_decide_eq_true hp⟩
    · rintro ⟨op, hop, hp⟩
      exact List.mem_map.2 ⟨(op, i), List.mem_filter.2
        ⟨List.mem_zipIdx_iff_getElem?.2 hop, decide_eq_true hp⟩, rfl⟩

theorem lists_untaggedPositions (ops : List Operation) :
    Lists ops (·.tags = []) (untaggedPositions ops) := by
  have heq : untaggedPositions ops = (ops.zipIdx.filter fun e => e.1.tags = []).map Prod.snd := by
    unfold untaggedPositions
    generalize ops.zipIdx = entries
    induction entries with
    | nil => rfl
    | cons e rest ih => by_cases htags : e.1.tags = [] <;> simp_all
  rw [heq]
  exact lists_filter_zipIdx ops _

/-- Where no operation repeats a tag, each of those that declare one is listed once under it. -/
theorem lists_positionsOf (hops : ∀ op ∈ ops, op.tags.Nodup) (tag : String) :
    Lists ops (tag ∈ ·.tags) (positionsOf ops tag) := by
  have hentry : ∀ e ∈ ops.zipIdx, List.replicate (e.1.tags.count tag) e.2
      = if tag ∈ e.1.tags then [e.2] else [] := by
    rintro ⟨op, i⟩ he
    have hop : op ∈ ops := List.mem_of_getElem? (List.mem_zipIdx_iff_getElem?.1 he)
    rw [(hops op hop).count]
    split <;> rfl
  have heq : positionsOf ops tag
      = (ops.zipIdx.filter fun e => tag ∈ e.1.tags).map Prod.snd := by
    show (ops.zipIdx.flatMap fun e => List.replicate (e.1.tags.count tag) e.2) = _
    generalize ops.zipIdx = entries at hentry ⊢
    induction entries with
    | nil => rfl
    | cons e rest ih =>
        obtain ⟨he, hrest⟩ := List.forall_mem_cons.1 hentry
        rw [List.flatMap_cons, he, ih hrest, List.filter_cons]
        by_cases htag : tag ∈ e.1.tags <;> simp [htag]
  rw [heq]
  exact lists_filter_zipIdx ops _

/-! ## Tags in order -/

theorem distinct_sublist (names : List String) : (distinct names).Sublist names := by
  induction names with
  | nil => exact List.Sublist.refl _
  | cons n rest ih => exact (List.filter_sublist.trans ih).cons_cons n

theorem mem_sortedDistinct {name : String} {names : List String} :
    name ∈ sortedDistinct names ↔ name ∈ names := by
  rw [sortedDistinct, mem_distinct, List.mem_mergeSort]

/-- What is sorted by a text ascends by it. -/
theorem pairwise_mergeSort_key {α : Type} (key : α → String) (as : List α) :
    (as.mergeSort fun a b => decide (key a ≤ key b)).Pairwise (key · ≤ key ·) := by
  have hsorted := @List.pairwise_mergeSort α (fun a b => decide (key a ≤ key b))
    (fun a b c hab hbc => decide_eq_true
      (String.le_trans (of_decide_eq_true hab) (of_decide_eq_true hbc)))
    (fun a b => by simp [String.le_total (key a) (key b)]) as
  exact hsorted.imp of_decide_eq_true

/-- Texts that are sorted without repetitions ascend strictly. -/
theorem pairwise_sortedDistinct (names : List String) :
    (sortedDistinct names).Pairwise (· < ·) := by
  have hle := (pairwise_mergeSort_key id names).sublist (distinct_sublist _)
  exact hle.imp₂ (fun a b hab hne => Std.lt_of_le_of_ne hab hne) (nodup_distinct _)

/-- An entry that is made for each of some names is found under each of them. -/
theorem get?_map_pair {α : Type} (f : String → α) (names : List String) (name : String) :
    Entries.get? (names.map fun n => (n, f n)) name = if name ∈ names then some (f name) else none := by
  induction names with
  | nil => rfl
  | cons n rest ih =>
      rw [List.map_cons, Entries.get?_cons, ih]
      by_cases h : name = n <;> simp [h]

theorem keys_positionsByTag (ops : List Operation) :
    Entries.keys (positionsByTag ops) = sortedDistinct (ops.flatMap (·.tags)) := by
  rw [Entries.keys, positionsByTag, List.map_map]
  exact List.map_id _

theorem mem_keys_positionsByTag {tag : String} :
    tag ∈ Entries.keys (positionsByTag ops) ↔ ∃ op ∈ ops, tag ∈ op.tags := by
  rw [keys_positionsByTag, mem_sortedDistinct, List.mem_flatMap]

/-- Under every tag stand the positions of its operations; a tag of none has no entry. -/
theorem get?_positionsByTag (hops : ∀ op ∈ ops, op.tags.Nodup) (tag : String) :
    ((positionsByTag ops).get? tag).getD [] = positionsOf ops tag := by
  rw [positionsByTag, get?_map_pair]
  split
  · rfl
  · next hnone =>
      rw [mem_sortedDistinct, List.mem_flatMap] at hnone
      refine ((lists_positionsOf hops tag).eq_nil_iff.2 fun op hop htag => ?_).symm
      exact hnone ⟨op, hop, htag⟩

/-! ## Services -/

/-- The service of a tag, or that of the operations without tags. -/
def serviceOf (ops : List Operation) : Option String → Service
  | none =>
      { name := CasedName.ofString "default", tag := none, operations := untaggedPositions ops }
  | some tag => taggedService (tag, positionsOf ops tag)

/-- The tags that have a service, after none where there are operations without tags. -/
def serviceTags (ops : List Operation) : List (Option String) :=
  (if untaggedPositions ops = [] then [] else [none])
    ++ (Entries.keys (positionsByTag ops)).map some

theorem services_eq_map (ops : List Operation) : services ops = (serviceTags ops).map (serviceOf ops) := by
  have hdefault : defaultService ops
      = (if untaggedPositions ops = [] then [] else [none]).map (serviceOf ops) := by
    unfold defaultService
    split
    · next h => rw [if_pos h, List.map_nil]
    · next h => rw [if_neg h, List.map_singleton, serviceOf]
  have htagged : (positionsByTag ops).map taggedService
      = ((Entries.keys (positionsByTag ops)).map some).map (serviceOf ops) := by
    rw [keys_positionsByTag, positionsByTag, List.map_map, List.map_map]
    rfl
  rw [services, serviceTags, List.map_append, hdefault, htagged]

theorem tag_serviceOf (ops : List Operation) (tag : Option String) : (serviceOf ops tag).tag = tag := by
  cases tag <;> rfl

theorem map_tag_services (ops : List Operation) : (services ops).map (·.tag) = serviceTags ops := by
  rw [services_eq_map, List.map_map]
  exact (List.map_congr_left fun tag _ => tag_serviceOf ops tag).trans (List.map_id _)

theorem nodup_serviceTags (ops : List Operation) : (serviceTags ops).Nodup := by
  have hkeys : ((Entries.keys (positionsByTag ops)).map some).Nodup := by
    rw [keys_positionsByTag]
    exact (nodup_distinct _).map (Option.some_injective _)
  unfold serviceTags
  split
  · exact hkeys
  · exact List.nodup_cons.2 ⟨by simp, hkeys⟩

end Assembly

/-- The tags under which an operation is grouped: its own, or none if it has none. -/
def Operation.groups (op : Operation) : List (Option String) :=
  if op.tags = [] then [none] else op.tags.map some

namespace Operation

variable {op : Operation}

@[simp] theorem none_mem_groups : none ∈ op.groups ↔ op.tags = [] := by
  unfold groups
  split <;> simp [*]

@[simp] theorem some_mem_groups {tag : String} : some tag ∈ op.groups ↔ tag ∈ op.tags := by
  unfold groups
  split <;> simp [*]

theorem nodup_groups (h : op.tags.Nodup) : op.groups.Nodup := by
  unfold groups
  split
  · exact List.nodup_singleton none
  · exact h.map (Option.some_injective _)

theorem length_groups (op : Operation) : op.groups.length = max 1 op.tags.length := by
  unfold groups
  split
  · next h => simp [h]
  · next h =>
      have hpos := List.length_pos_iff.2 h
      rw [List.length_map]
      omega

end Operation

namespace Assembly

variable {ops : List Operation}

/-- The service of a tag lists the operations that are grouped under it. -/
theorem lists_serviceOf (hops : ∀ op ∈ ops, op.tags.Nodup) (tag : Option String) :
    Lists ops (tag ∈ ·.groups) (serviceOf ops tag).operations := by
  cases tag with
  | none =>
      simp only [Operation.none_mem_groups]
      exact lists_untaggedPositions ops
  | some tag =>
      simp only [Operation.some_mem_groups]
      exact lists_positionsOf hops tag

/-- Every tag under which an operation is grouped has a service. -/
theorem mem_serviceTags_of_mem_groups {op : Operation} (hop : op ∈ ops) {tag : Option String}
    (h : tag ∈ op.groups) : tag ∈ serviceTags ops := by
  refine List.mem_append.2 ?_
  cases tag with
  | none =>
      rw [if_neg]
      · exact .inl List.mem_cons_self
      · intro hnil
        exact (lists_untaggedPositions ops).eq_nil_iff.1 hnil op hop (Operation.none_mem_groups.1 h)
  | some tag =>
      refine .inr (List.mem_map_of_mem ?_)
      exact mem_keys_positionsByTag.2 ⟨op, hop, Operation.some_mem_groups.1 h⟩

/-- An operation stands in as many services as there are tags under which it is grouped. -/
theorem countP_services (hops : ∀ op ∈ ops, op.tags.Nodup) {i : Nat} {op : Operation}
    (hop : ops[i]? = some op) :
    (services ops).countP (fun s => i ∈ s.operations) = max 1 op.tags.length := by
  have hmem : op ∈ ops := List.mem_of_getElem? hop
  have hgroups : ((serviceTags ops).filter fun tag => tag ∈ op.groups).Perm op.groups := by
    refine (List.perm_ext_iff_of_nodup ((nodup_serviceTags ops).filter _)
      (Operation.nodup_groups (hops op hmem))).2 fun tag => ?_
    rw [List.mem_filter, decide_eq_true_eq]
    exact and_iff_right_of_imp (mem_serviceTags_of_mem_groups hmem)
  calc (services ops).countP (fun s => i ∈ s.operations)
      = (serviceTags ops).countP (fun tag => tag ∈ op.groups) := by
        rw [services_eq_map, List.countP_map]
        refine List.countP_congr fun tag _ => ?_
        simp [(lists_serviceOf hops tag).mem_iff_of_getElem? hop]
    _ = op.groups.length := by rw [List.countP_eq_length_filter, hgroups.length_eq]
    _ = max 1 op.tags.length := op.length_groups

end Assembly

/-! ## The data of a document -/

/-- The operations of some data are grouped by tag, none is lost and none is listed twice. -/
structure CodeGenData.Grouped (d : CodeGenData) : Prop where
  /-- Under every tag stand the operations that declare it. -/
  tagged : ∀ tag, Lists d.operations (tag ∈ ·.tags) ((d.operationsByTag.get? tag).getD [])
  /-- The tags are those of the operations. -/
  keys : ∀ tag, tag ∈ Entries.keys d.operationsByTag ↔ ∃ op ∈ d.operations, tag ∈ op.tags
  /-- They ascend in the order of their octets. -/
  ascending : (Entries.keys d.operationsByTag).Pairwise fun t u => Text.octets t < Text.octets u
  /-- The operations without tags are listed apart. -/
  untagged : Lists d.operations (·.tags = []) d.untaggedOperations
  /-- The service without a tag comes first where there are such operations, then one for every tag. -/
  services : d.services.map (·.tag) = (if ∃ op ∈ d.operations, op.tags = [] then [none] else [])
    ++ (Entries.keys d.operationsByTag).map some
  /-- Each is named after its tag. -/
  names : ∀ s ∈ d.services, s.name = CasedName.ofString (s.tag.getD "default")
  /-- Each has the operations that stand under its tag. -/
  operations : ∀ s ∈ d.services, s.operations = match s.tag with
    | none => d.untaggedOperations
    | some tag => (d.operationsByTag.get? tag).getD []
  /-- The one service of a tag is found. -/
  found : ∀ tag s, d.service? tag = some s ↔ s ∈ d.services ∧ s.tag = tag
  /-- An operation stands in as many services as it has tags, or in the one without a tag, and only
      once in each. -/
  placed : ∀ i op, d.operations[i]? = some op →
    d.services.countP (fun s => i ∈ s.operations) = max 1 op.tags.length ∧
      ∀ s ∈ d.services, i ∈ s.operations → s.operations.count i = 1

namespace CodeGenData.Grouped

variable {d : CodeGenData}

/-- The operations of a service are those that are grouped under its tag. -/
theorem lists (h : d.Grouped) {s : Service}
    (hs : s ∈ d.services) : Lists d.operations (s.tag ∈ ·.groups) s.operations := by
  rw [h.operations s hs]
  cases s.tag with
  | none =>
      simp only [Operation.none_mem_groups]
      exact h.untagged
  | some tag =>
      simp only [Operation.some_mem_groups]
      exact h.tagged tag

/-- Operations that declare one tag stand in one service. -/
theorem exists_service (h : d.Grouped) {tag : String}
    {i : Nat} {op : Operation} (hop : d.operations[i]? = some op) (htag : tag ∈ op.tags) :
    ∃ s ∈ d.services, s.tag = some tag ∧
      ∀ j other, d.operations[j]? = some other → tag ∈ other.tags → j ∈ s.operations := by
  have hkey : tag ∈ Entries.keys d.operationsByTag :=
    (h.keys tag).2 ⟨op, List.mem_of_getElem? hop, htag⟩
  have hmem : some tag ∈ d.services.map (·.tag) := by
    rw [h.services]
    exact List.mem_append_right _ (List.mem_map_of_mem hkey)
  obtain ⟨s, hs, hstag⟩ := List.mem_map.1 hmem
  refine ⟨s, hs, hstag, fun j other hother hothertag => ?_⟩
  rw [(h.lists hs).mem_iff_of_getElem? hother, hstag, Operation.some_mem_groups]
  exact hothertag

end CodeGenData.Grouped

namespace Assembly

theorem untaggedPositions_eq_nil_iff {ops : List Operation} :
    untaggedPositions ops = [] ↔ ¬ ∃ op ∈ ops, op.tags = [] := by
  rw [(lists_untaggedPositions ops).eq_nil_iff]
  simp

/-- Operations that repeat no tag are grouped when they are assembled. -/
theorem assemble_grouped {all : List Operation} (info : Info) (r : Registry)
    (extensions : Entries Json) (hall : ∀ op ∈ all, op.tags.Nodup) :
    (assemble info r all extensions).Grouped := by
  have hops : ∀ op ∈ keptOperations [] all, op.tags.Nodup := fun op hop =>
    hall op (mem_keptOperations hop)
  have hservice : ∀ s ∈ services (keptOperations [] all),
      s = serviceOf (keptOperations [] all) s.tag := by
    intro s hs
    rw [services_eq_map] at hs
    obtain ⟨tag, -, rfl⟩ := List.mem_map.1 hs
    rw [tag_serviceOf]
  refine ⟨fun tag => ?_, fun tag => mem_keys_positionsByTag, ?_, lists_untaggedPositions _, ?_,
    fun s hs => ?_, fun s hs => ?_, fun tag s => ?_,
    fun i op hop => ⟨countP_services hops hop, fun s hs hi => ?_⟩⟩
  · show Lists _ _ (((positionsByTag _).get? tag).getD [])
    rw [get?_positionsByTag hops]
    exact lists_positionsOf hops tag
  · show (Entries.keys (positionsByTag _)).Pairwise _
    rw [keys_positionsByTag]
    exact (pairwise_sortedDistinct _).imp Text.lt_iff_octets_lt.1
  · show (services _).map _ = _
    rw [map_tag_services, serviceTags]
    congr 1
    by_cases h : ∃ op ∈ keptOperations [] all, op.tags = []
    · rw [if_neg fun hnil => untaggedPositions_eq_nil_iff.1 hnil h]
      exact (if_pos h).symm
    · rw [if_pos (untaggedPositions_eq_nil_iff.2 h)]
      exact (if_neg h).symm
  · rw [hservice s hs]
    cases s.tag with
    | none => rfl
    | some tag => rfl
  · rw [hservice s hs]
    cases s.tag with
    | none => rfl
    | some tag => exact (get?_positionsByTag hops tag).symm
  · refine find?_eq_some_iff_of_nodup ?_
    show ((services _).map _).Nodup
    rw [map_tag_services]
    exact nodup_serviceTags _
  · rw [hservice s hs] at hi ⊢
    exact List.count_eq_one_of_mem (lists_serviceOf hops s.tag).ascending.nodup hi

end Assembly

theorem length_distinct {α : Type} [DecidableEq α] (as : List α) :
    (distinct as).length = as.toFinset.card := by
  rw [← List.toFinset_card_of_nodup (nodup_distinct as)]
  congr 1
  ext a
  rw [List.mem_toFinset, List.mem_toFinset, mem_distinct]

/-- A document with an operation that repeats a tag, two that are assigned one name, the second of them
    under a tag that no other has, and one without tags. -/
def libraryDocument : Document where
  openapi := "3.0.0"
  info := { title := "Library", version := "1" }
  paths :=
    [("/loans", { get := some { operationId := some "list", tags := ["loans", "books", "loans"] } }),
     ("/books",
      { get := some
          { operationId := some "list"
            tags := ["books"]
            extra := [(Operation.assignedNameKey, .string "listBooks")] }
        put := some
          { operationId := some "put"
            tags := ["shelves"]
            extra := [(Operation.assignedNameKey, .string "listBooks")] } }),
     ("/ping", { get := some { operationId := some "ping" } })]

namespace Document

variable {d : Document} {options : Options}

theorem grouped_of_codeGenData {data : CodeGenData} (h : (d.codeGenData options).value = .ok data) :
    data.Grouped := by
  obtain ⟨r, ops, hfinished, rfl⟩ := codeGenData_ok h
  obtain ⟨hyields, -⟩ := finished_operations hfinished
  exact Assembly.assemble_grouped d.info r d.vendorExtensions (DeclaredOperation.nodup_tags hyields)

/-- The data of a document groups its operations by tag. Its operations are, in the order of the
    document, declared ones under their finished form, and each stands in as many services as tags are
    declared for it, however often each is repeated, or in the one without a tag if there are none. -/
theorem codeGenData_grouped {data : CodeGenData} (h : (d.codeGenData options).value = .ok data) :
    data.Grouped ∧
      (∃ ops, List.Forall₂ (DeclaredOperation.Yields options) d.declaredOperations ops ∧
        data.operations.Sublist ops) ∧
      ∀ i op, data.operations[i]? = some op →
        ∃ decl ∈ d.declaredOperations, decl.Yields options op ∧
          (∀ tag, tag ∈ op.tags ↔ tag ∈ decl.spec.tags) ∧
          data.services.countP (fun s => i ∈ s.operations) = max 1 decl.spec.tags.toFinset.card := by
  have hgrouped := grouped_of_codeGenData h
  obtain ⟨r, ops, hfinished, rfl⟩ := codeGenData_ok h
  obtain ⟨hyields, -⟩ := finished_operations hfinished
  refine ⟨hgrouped, ⟨ops, hyields, Assembly.keptOperations_sublist [] ops⟩, fun i op hop => ?_⟩
  obtain ⟨decl, hmem, hdecl⟩ := exists_of_forall₂ hyields
    (Assembly.mem_keptOperations (List.mem_of_getElem? hop))
  refine ⟨decl, hmem, hdecl, fun tag => ?_, ?_⟩
  · rw [hdecl.tags, mem_distinct]
  · rw [(hgrouped.placed i op hop).1, hdecl.tags, length_distinct]

theorem codeGenData_grouped_library : ∃ data,
    (libraryDocument.codeGenData { verifyDeduplicatedIds := false }).value = .ok data ∧
      data.operations.map (·.tags) = [["loans", "books"], ["books"], []] ∧ data.Grouped ∧
      ∃ decl ∈ libraryDocument.declaredOperations, ("loans" ∈ decl.spec.tags) ∧
        data.services.countP (fun s => 0 ∈ s.operations) = max 1 decl.spec.tags.toFinset.card := by
  obtain ⟨data, hdata, htags⟩ := exists_ok_of_map (f := fun data => data.operations.map (·.tags))
    (y := [["loans", "books"], ["books"], []])
    (show (libraryDocument.codeGenData { verifyDeduplicatedIds := false }).value.toOption.map _ = _
      by decide +kernel)
  obtain ⟨hgrouped, -, hplaced⟩ := codeGenData_grouped hdata
  have hfirst : data.operations[0]?.map (·.tags) = some ["loans", "books"] := by
    rw [← List.getElem?_map, htags]
    rfl
  obtain ⟨op, hop, hoptags⟩ := Option.map_eq_some_iff.1 hfirst
  obtain ⟨decl, hmem, -, hdecl, hcount⟩ := hplaced 0 op hop
  refine ⟨data, hdata, htags, hgrouped, decl, hmem, (hdecl "loans").1 ?_, hcount⟩
  rw [hoptags]
  exact List.mem_cons_self

end Document

end OpenApi
