import OpenApi.Proofs.Services

set_option autoImplicit false

/-! # The index of vendor extensions

Extensions stand at the document, at nodes, and at the operations that are kept with their parameters and
responses. `CodeGenData.IndexesExtensions` says that some data lists for each key the places that
carry it, each once and in the order of their positions, and `Assembly.assemble_indexesExtensions` that
all data that is assembled does, where the operations that are kept are the first ones of their names. -/

namespace OpenApi

/-! ## Places -/

namespace ExtensionSite

/-- Where a place stands: the document comes first, then the nodes, then each operation, with its
    parameters and then its responses behind it. Positions are compared number by number. -/
def position : ExtensionSite → List Nat
  | .document => [0]
  | .model id => [1, id]
  | .operation i => [2, i]
  | .parameter i j => [2, i, 0, j]
  | .response i j => [2, i, 1, j]

end ExtensionSite

/-- The extensions of a place; none where there is no such place. -/
def extensionsAt? (document : Entries Json) (nodes : Nodes) (ops : List Operation) :
    ExtensionSite → Option (Entries Json)
  | .document => some document
  | .model id => nodes[id]?.map (·.vendorExtensions)
  | .operation i => ops[i]?.map (·.vendorExtensions)
  | .parameter i j => ops[i]?.bind fun op => op.parameters[j]?.map (·.vendorExtensions)
  | .response i j => ops[i]?.bind fun op => op.responses[j]?.map (·.vendorExtensions)

/-- Whether an extension stands at a place. -/
def Carries (document : Entries Json) (nodes : Nodes) (ops : List Operation) (key : String)
    (site : ExtensionSite) : Prop :=
  ∃ extensions, extensionsAt? document nodes ops site = some extensions ∧
    key ∈ Entries.keys extensions

/-- The first operation of each unique name, in order. -/
def firstOperations (all : List Operation) : List Operation :=
  (all.zipIdx.filter fun (e : Operation × Nat) =>
    ∀ o ∈ all.take e.2, o.uniqueName ≠ e.1.uniqueName).map Prod.fst

/-- Some data lists for each extension the places that carry it. -/
structure CodeGenData.IndexesExtensions (d : CodeGenData) (document : Entries Json) (nodes : Nodes) :
    Prop where
  /-- The keys are those that some place carries. -/
  keys : ∀ key, key ∈ Entries.keys d.extensionSites ↔
    ∃ site, Carries document nodes d.operations key site
  /-- They ascend in the order of their octets. -/
  ascending : (Entries.keys d.extensionSites).Pairwise fun k l => Text.octets k < Text.octets l
  /-- Under a key stand the places that carry it. -/
  carried : ∀ key sites, d.extensionSites.get? key = some sites →
    ∀ site, site ∈ sites ↔ Carries document nodes d.operations key site
  /-- They stand in the order of their positions, so that none is repeated. -/
  ordered : ∀ key sites, d.extensionSites.get? key = some sites →
    sites.Pairwise fun s t => s.position < t.position

namespace Assembly

variable {document : Entries Json} {nodes : Nodes} {ops : List Operation} {key : String}
  {site : ExtensionSite}

/-! ## Marked keys -/

/-- Of two keys with their places, one comes before the other: its place does, or they are different
    keys of one place. -/
def Earlier (a b : String × ExtensionSite) : Prop :=
  a.2.position < b.2.position ∨ a.2 = b.2 ∧ a.1 ≠ b.1

theorem mem_mark {extensions : Entries Json} {s : ExtensionSite} :
    (key, site) ∈ mark extensions s ↔ site = s ∧ key ∈ Entries.keys extensions := by
  simp [mark, and_comm, eq_comm]

theorem pairwise_mark {extensions : Entries Json} (h : (Entries.keys extensions).Nodup)
    (s : ExtensionSite) : (mark extensions s).Pairwise Earlier :=
  List.pairwise_map.2 (h.imp fun hne => .inr ⟨rfl, hne⟩)

/-- Members of a list stand in the order of their positions. -/
theorem pairwise_zipIdx {α : Type} (as : List α) : as.zipIdx.Pairwise fun a b => a.2 < b.2 := by
  rw [← List.pairwise_map (f := Prod.snd), List.zipIdx_map_snd]
  exact List.pairwise_lt_range' 1

section Members

variable {α : Type} (as : List α) (extensions : α → Entries Json) (place : Nat → ExtensionSite)

/-- The keys of the members of a list stand at the places of the members. -/
theorem mem_flatMap_mark :
    (key, site) ∈ as.zipIdx.flatMap (fun e => mark (extensions e.1) (place e.2)) ↔
      ∃ i a, as[i]? = some a ∧ site = place i ∧ key ∈ Entries.keys (extensions a) := by
  simp only [List.mem_flatMap, mem_mark, Prod.exists, List.mem_zipIdx_iff_getElem?]
  exact exists_comm

/-- Where the places of the members ascend, so do their keys. -/
theorem pairwise_flatMap_mark
    (hplace : ∀ i j, i < j → (place i).position < (place j).position)
    (hkeys : ∀ a ∈ as, (Entries.keys (extensions a)).Nodup) :
    (as.zipIdx.flatMap fun e => mark (extensions e.1) (place e.2)).Pairwise Earlier := by
  refine List.pairwise_flatMap.2 ⟨?_, (pairwise_zipIdx as).imp ?_⟩
  · rintro ⟨a, i⟩ ha
    exact pairwise_mark (hkeys a (List.mem_of_getElem? (List.mem_zipIdx_iff_getElem?.1 ha))) _
  · rintro ⟨a, i⟩ ⟨b, j⟩ hij ⟨k, s⟩ hs ⟨l, t⟩ ht
    rw [(mem_mark.1 hs).1, (mem_mark.1 ht).1]
    exact .inl (hplace i j hij)

end Members

/-- The keys of an operation stand at the operation, its parameters and its responses. -/
theorem mem_operationSites {op : Operation} {i : Nat} :
    (key, site) ∈ operationSites op i ↔
      (site = .operation i ∧ key ∈ Entries.keys op.vendorExtensions) ∨
      (∃ j p, op.parameters[j]? = some p ∧ site = .parameter i j ∧
        key ∈ Entries.keys p.vendorExtensions) ∨
      ∃ j r, op.responses[j]? = some r ∧ site = .response i j ∧ key ∈ Entries.keys r.vendorExtensions := by
  rw [operationSites, List.mem_append, List.mem_append, mem_mark, or_assoc]
  exact or_congr_right (or_congr (mem_flatMap_mark _ _ (.parameter i))
    (mem_flatMap_mark _ _ (.response i)))

theorem mem_markedSites {ops : List Operation} : (key, site) ∈ markedSites document nodes ops ↔
    Carries document nodes ops key site := by
  have hops : (key, site) ∈ ops.zipIdx.flatMap (fun e => operationSites e.1 e.2) ↔
      ∃ i op, ops[i]? = some op ∧ (key, site) ∈ operationSites op i := by
    simp only [List.mem_flatMap, Prod.exists, List.mem_zipIdx_iff_getElem?]
    exact exists_comm
  rw [markedSites, List.mem_append, List.mem_append, mem_mark]
  refine (or_congr (or_congr_right (mem_flatMap_mark _ _ .model)) hops).trans ?_
  simp only [mem_operationSites, Array.getElem?_toList]
  cases site <;>
    simp [Carries, extensionsAt?, Option.bind_eq_some_iff, Option.map_eq_some_iff, and_assoc]

/-- No place repeats a key. -/
structure DistinctKeys (document : Entries Json) (nodes : Nodes) (ops : List Operation) : Prop where
  document : (Entries.keys document).Nodup
  nodes : ∀ m ∈ nodes.toList, (Entries.keys m.vendorExtensions).Nodup
  operations : ∀ op ∈ ops, (Entries.keys op.vendorExtensions).Nodup
  parameters : ∀ op ∈ ops, ∀ p ∈ op.parameters, (Entries.keys p.vendorExtensions).Nodup
  responses : ∀ op ∈ ops, ∀ r ∈ op.responses, (Entries.keys r.vendorExtensions).Nodup

/-- What some operations repeat nowhere, those among them do not either. -/
theorem DistinctKeys.subset {all : List Operation} (h : DistinctKeys document nodes all)
    (hops : ∀ op ∈ ops, op ∈ all) : DistinctKeys document nodes ops where
  document := h.document
  nodes := h.nodes
  operations op hop := h.operations op (hops op hop)
  parameters op hop := h.parameters op (hops op hop)
  responses op hop := h.responses op (hops op hop)

/-- What stands at an operation has its position in front. -/
theorem position_of_mem_operationSites {op : Operation} {i : Nat}
    (h : (key, site) ∈ operationSites op i) : ∃ rest, site.position = 2 :: i :: rest := by
  rcases mem_operationSites.1 h with ⟨rfl, -⟩ | ⟨j, -, -, rfl, -⟩ | ⟨j, -, -, rfl, -⟩
  · exact ⟨_, rfl⟩
  · exact ⟨_, rfl⟩
  · exact ⟨_, rfl⟩

section Order

variable (h : DistinctKeys document nodes ops)

include h

/-- The keys of an operation come before those of its parameters, and these before those of its
    responses. -/
theorem pairwise_operationSites {op : Operation} (hop : op ∈ ops) (i : Nat) :
    (operationSites op i).Pairwise Earlier := by
  have hparameters := pairwise_flatMap_mark op.parameters (·.vendorExtensions) (.parameter i)
    (fun j k hjk => by simpa [ExtensionSite.position, List.cons_lt_cons_iff] using hjk)
    (h.parameters op hop)
  have hresponses := pairwise_flatMap_mark op.responses (·.vendorExtensions) (.response i)
    (fun j k hjk => by simpa [ExtensionSite.position, List.cons_lt_cons_iff] using hjk)
    (h.responses op hop)
  refine List.pairwise_append.2 ⟨List.pairwise_append.2 ⟨?_, hparameters, ?_⟩, hresponses, ?_⟩
  · exact pairwise_mark (h.operations op hop) _
  · rintro ⟨k, s⟩ hs ⟨l, t⟩ ht
    obtain ⟨rfl, -⟩ := mem_mark.1 hs
    obtain ⟨j, -, -, rfl, -⟩ := (mem_flatMap_mark _ _ _).1 ht
    exact .inl (by simp [ExtensionSite.position])
  · rintro ⟨k, s⟩ hs ⟨l, t⟩ ht
    obtain ⟨m, -, -, rfl, -⟩ := (mem_flatMap_mark _ _ _).1 ht
    rcases List.mem_append.1 hs with hs | hs
    · obtain ⟨rfl, -⟩ := mem_mark.1 hs
      exact .inl (by simp [ExtensionSite.position])
    · obtain ⟨j, -, -, rfl, -⟩ := (mem_flatMap_mark _ _ _).1 hs
      exact .inl (by simp [ExtensionSite.position, List.cons_lt_cons_iff])

/-- The document comes before the nodes, these before the operations, and each operation before the
    next. -/
theorem pairwise_markedSites : (markedSites document nodes ops).Pairwise Earlier := by
  have hnodes := pairwise_flatMap_mark nodes.toList (·.vendorExtensions) .model
    (fun i j hij => by simpa [ExtensionSite.position, List.cons_lt_cons_iff] using hij)
    h.nodes
  have hops : (ops.zipIdx.flatMap fun e => operationSites e.1 e.2).Pairwise Earlier := by
    refine List.pairwise_flatMap.2 ⟨?_, (pairwise_zipIdx ops).imp ?_⟩
    · rintro ⟨op, i⟩ hop
      exact pairwise_operationSites h (List.mem_of_getElem? (List.mem_zipIdx_iff_getElem?.1 hop)) i
    · rintro ⟨a, i⟩ ⟨b, j⟩ hij ⟨k, s⟩ hs ⟨l, t⟩ ht
      obtain ⟨rest, hs⟩ := position_of_mem_operationSites hs
      obtain ⟨rest', ht⟩ := position_of_mem_operationSites ht
      refine .inl ?_
      rw [hs, ht]
      simp [List.cons_lt_cons_iff, hij]
  refine List.pairwise_append.2 ⟨List.pairwise_append.2
    ⟨pairwise_mark h.document _, hnodes, ?_⟩, hops, ?_⟩
  · rintro ⟨k, s⟩ hs ⟨l, t⟩ ht
    obtain ⟨rfl, -⟩ := mem_mark.1 hs
    obtain ⟨i, -, -, rfl, -⟩ := (mem_flatMap_mark _ _ _).1 ht
    exact .inl (by simp [ExtensionSite.position, List.cons_lt_cons_iff])
  · rintro ⟨k, s⟩ hs ⟨l, t⟩ ht
    obtain ⟨⟨op, i⟩, -, ht⟩ := List.mem_flatMap.1 ht
    obtain ⟨rest, ht⟩ := position_of_mem_operationSites ht
    refine .inl ?_
    rw [ht]
    rcases List.mem_append.1 hs with hs | hs
    · obtain ⟨rfl, -⟩ := mem_mark.1 hs
      simp [ExtensionSite.position, List.cons_lt_cons_iff]
    · obtain ⟨j, -, -, rfl, -⟩ := (mem_flatMap_mark _ _ _).1 hs
      simp [ExtensionSite.position, List.cons_lt_cons_iff]

end Order

/-! ## The places of a key -/

theorem mem_valuesOf {α : Type} {pairs : List (String × α)} {v : α} :
    v ∈ valuesOf pairs key ↔ (key, v) ∈ pairs := by
  simp [valuesOf, List.mem_filterMap]

/-- The values of one key keep the order of the pairs. -/
theorem pairwise_valuesOf {α : Type} {R : String × α → String × α → Prop} {pairs : List (String × α)}
    (h : pairs.Pairwise R) (key : String) :
    (valuesOf pairs key).Pairwise fun v w => R (key, v) (key, w) := by
  refine List.pairwise_filterMap.2 (h.imp ?_)
  rintro ⟨k, v⟩ ⟨l, w⟩ hr v' hv w' hw
  obtain ⟨rfl, rfl⟩ : k = key ∧ v = v' := by simpa using hv
  obtain ⟨rfl, rfl⟩ : l = k ∧ w = w' := by simpa using hw
  exact hr

theorem eq_valuesOf_of_get?_grouped {α : Type} {pairs : List (String × α)} {values : List α}
    (h : Entries.get? (grouped pairs) key = some values) : values = valuesOf pairs key := by
  rw [grouped, get?_map_pair] at h
  split at h
  · exact (Option.some.inj h).symm
  · cases h

theorem keys_grouped {α : Type} (pairs : List (String × α)) :
    Entries.keys (grouped pairs) = sortedDistinct (pairs.map Prod.fst) := by
  rw [Entries.keys, grouped, List.map_map]
  exact List.map_id _

/-! ## Kept operations -/

/-- An operation is kept when its name is not taken and no earlier one has it. -/
theorem keptOperations_eq (seen : List String) (ops : List Operation) :
    keptOperations seen ops = (ops.zipIdx.filter fun (e : Operation × Nat) =>
      e.1.uniqueName ∉ seen ∧ ∀ o ∈ ops.take e.2, o.uniqueName ≠ e.1.uniqueName).map Prod.fst := by
  induction ops generalizing seen with
  | nil => rfl
  | cons op rest ih =>
      have hshift : rest.zipIdx 1 = rest.zipIdx.map fun e => (e.1, e.2 + 1) := List.zipIdx_succ
      rw [keptOperations, List.zipIdx_cons, hshift]
      by_cases hop : op.uniqueName ∈ seen
      · rw [if_pos hop, ih, List.filter_cons_of_neg (by simp [hop]), List.filter_map, List.map_map]
        refine congrArg (List.map Prod.fst) (List.filter_congr fun e _ => decide_eq_decide.2 ?_)
        -- an operation whose name is not taken does not have that of `op`
        have hne : e.1.uniqueName ∉ seen → op.uniqueName ≠ e.1.uniqueName := fun he heq =>
          he (heq ▸ hop)
        simp only [List.take_succ_cons, List.forall_mem_cons]
        exact and_congr_right fun he => (and_iff_right (hne he)).symm
      · rw [if_neg hop, ih, List.filter_cons_of_pos (by simp [hop]), List.filter_map, List.map_cons,
          List.map_map]
        refine congrArg (op :: List.map Prod.fst ·)
          (List.filter_congr fun e _ => decide_eq_decide.2 ?_)
        rw [List.take_succ_cons, List.forall_mem_cons, List.mem_cons, not_or, ← and_assoc]
        exact and_congr_left' (and_comm.trans (and_congr_right' ne_comm))

end Assembly

/-- The index of extensions of assembled data lists for each key the places that carry it: the document, the
    nodes, and the operations of the data with their parameters and responses. These operations are
    the first ones of their names, so that no position counts one that is dropped. -/
theorem Assembly.assemble_indexesExtensions (info : Info) (r : Registry) (all : List Operation)
    (extensions : Entries Json)
    (h : DistinctKeys extensions r.nodes all) :
    (assemble info r all extensions).IndexesExtensions extensions r.nodes ∧
      (assemble info r all extensions).operations = firstOperations all := by
  have hkept : DistinctKeys extensions r.nodes (keptOperations [] all) :=
    h.subset fun op hop => mem_keptOperations hop
  refine ⟨⟨fun key => ?_, ?_, fun key sites hsites site => ?_, fun key sites hsites => ?_⟩, ?_⟩
  · show key ∈ Entries.keys (grouped _) ↔ _
    rw [keys_grouped, mem_sortedDistinct, List.mem_map]
    simp only [Prod.exists, exists_and_right, exists_eq_right, mem_markedSites]
    rfl
  · show (Entries.keys (grouped _)).Pairwise _
    rw [keys_grouped]
    exact (pairwise_sortedDistinct _).imp Text.lt_iff_octets_lt.1
  · rw [eq_valuesOf_of_get?_grouped hsites, mem_valuesOf]
    exact mem_markedSites
  · rw [eq_valuesOf_of_get?_grouped hsites]
    -- two places of one key stand at different positions
    exact (pairwise_valuesOf (pairwise_markedSites hkept) key).imp fun hst =>
      hst.resolve_right fun hne => hne.2 rfl
  · refine (keptOperations_eq [] all).trans ?_
    simp [firstOperations]

/-- Of two operations of one name the second is dropped, and the third is the second that is kept: its
    response stands at that position. -/
theorem Assembly.assemble_indexesExtensions_dropped :
    let info : Info := { title := "Pets", version := "1" }
    let tagged : Entries Json := [("x-team", .null)]
    let operation (path name : String) : Operation :=
      { path := path, method := .get, operationId := name, name := CasedName.ofString name,
        uniqueName := name }
    let listed : Operation := { operation "/pets" "list" with
      parameters := [{ model := 0, location := .body, name := "body", prop := "body",
                       vendorExtensions := tagged }] }
    let repeated : Operation := { operation "/dogs" "list" with vendorExtensions := [("x-lost", .null)] }
    let shown : Operation := { operation "/pet" "show" with
      responses := [{ code := .default, vendorExtensions := tagged }] }
    let nodes : Nodes := #[{ Model.any "Pet" with vendorExtensions := tagged }]
    (assemble info ⟨nodes, []⟩ [listed, repeated, shown] tagged).IndexesExtensions tagged nodes ∧
      (assemble info ⟨nodes, []⟩ [listed, repeated, shown] tagged).operations = [listed, shown] ∧
      Carries tagged nodes [listed, shown] "x-team" (.response 1 0) :=
  ⟨(assemble_indexesExtensions _ _ _ _ ⟨by decide, by decide, by decide, by decide, by decide⟩).1,
    rfl, _, rfl, by decide⟩

end OpenApi
