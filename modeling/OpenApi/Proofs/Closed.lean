import OpenApi.Proofs.Finishing

set_option autoImplicit false

/-! # No reference dangles

`CodeGenData.ids` lists every node that some data holds on to. In the data of a document all of them
are there, references have targets, and following references ends at what the document says that it
ends at: `codeGenData_closed`. -/

namespace OpenApi

/-! ## Nodes that are held -/

/-- The nodes that a node holds. -/
def Model.ids (m : Model) : List ModelId :=
  m.properties ++ m.link.toList ++ m.composedModels ++ m.composedPrimitives

/-- The nodes that an operation holds. -/
def Operation.ids (op : Operation) : List ModelId :=
  op.parameters.map (·.model) ++ op.responses.filterMap (·.model)

/-- The node that carries an extension. -/
def ExtensionSite.id? : ExtensionSite → Option ModelId
  | .model id => some id
  | _ => none

/-- The nodes that some data holds. -/
def CodeGenData.ids (d : CodeGenData) : List ModelId :=
  d.nodes.toList.flatMap Model.ids ++ d.models.toList ++ d.operations.flatMap Operation.ids ++
    d.extensionSites.flatMap fun entry => entry.2.filterMap ExtensionSite.id?

/-! ## The graph -/

namespace Registry.Completes

variable {c : Components} {b : Builder} {r : Registry} {id : ModelId} {m : Model}

theorem lookup_lt (h : r.Completes c b) {n : String} (hn : r.lookup n = some id) :
    id < r.nodes.size := by
  rw [h.decorates.lookup] at hn
  rw [h.decorates.size]
  exact h.linkable.complete.ready.sound.lookup_lt hn

/-- References have targets. -/
theorem targets (h : r.Completes c b) (hm : r.node? id = some m) (hk : m.kind = .reference) :
    ∃ t, r.lookup m.baseType = some t := by
  obtain ⟨m₀, hm₀, hd⟩ := h.decorates.node_back hm
  rw [h.decorates.lookup, hd.alike.baseType]
  exact h.linkable.complete.ready.sound.targets hm₀ (hd.alike.kind ▸ hk)

/-- What a node holds is in the graph. -/
theorem ids_lt (h : r.Completes c b) (hm : r.node? id = some m) : ∀ i ∈ m.ids, i < r.nodes.size := by
  obtain ⟨m₀, hm₀, hd⟩ := h.decorates.node_back hm
  have hsound := h.linkable.complete.ready.sound
  have hproperties : ∀ p ∈ m₀.properties, p < r.nodes.size := by
    intro p hp
    rw [h.decorates.size]
    exact hsound.properties hm₀ hp
  have hcomposed := hsound.composed hm₀
  intro i hi
  simp only [Model.ids, List.mem_append] at hi
  rcases hi with ((hi | hi) | hi) | hi
  · exact hproperties i (hd.alike.properties ▸ hi)
  · rw [Option.mem_toList, hd.link] at hi
    rw [h.decorates.size]
    exact (h.linkable.links hm₀ hi).lt
  · -- composites are split after they are linked, so that their parts are properties
    refine hproperties i ((hd.models i hi).resolve_left ?_)
    rw [hcomposed.1]
    exact List.not_mem_nil
  · refine hproperties i ((hd.primitives i hi).resolve_left ?_)
    rw [hcomposed.2]
    exact List.not_mem_nil

/-- A reference to the target of a path is what the document says that the path leads to. -/
theorem canonical_target (h : r.Completes c b) (hm : r.node? id = some m) (hk : m.kind = .reference)
    {path : String} (htarget : c.targetName path = .ok m.baseType) :
    ∃ e, c.canonicalName path = .ok e ∧ r.lookup e = some (r.canonical id) := by
  obtain ⟨m₀, hm₀, hd⟩ := h.decorates.node_back hm
  have hb := h.linkable.complete.resolved
  rw [hd.alike.baseType] at htarget
  obtain ⟨t, ht⟩ := hb.ready.lookup_target htarget
  obtain ⟨e, he, hcanonical⟩ := hb.canonical_target htarget ht
  refine ⟨e, he, ?_⟩
  rw [h.decorates.lookup, h.decorates.canonical_eq, hcanonical,
    hb.canonical_reference hm₀ (hd.alike.kind ▸ hk) ht]

end Registry.Completes

/-- No reference of a graph dangles, and following references ends where those of the components
    end. -/
structure Registry.Closed (c : Components) (r : Registry) : Prop where
  /-- References have targets. -/
  targets : ∀ {id : ModelId} {m : Model}, r.node? id = some m → m.kind = .reference →
    ∃ t, r.lookup m.baseType = some t
  /-- What a node is said to be is never an alias or an occurrence. -/
  canonical : ∀ {id : ModelId}, id < r.nodes.size →
    ∃ m, r.node? (r.canonical id) = some m ∧ (m.kind = .reference → r.isObject (r.canonical id))
  /-- An occurrence of a reference is what the document says that the reference leads to. -/
  occurrences : ∀ {path : String} {nullable : Option Bool} {id : ModelId} {m : Model},
    r.node? id = some m → r.view.Occurs c (.ref path nullable) id m →
    ∃ e, c.canonicalName path = .ok e ∧ r.lookup e = some (r.canonical id)
  /-- So is the model of a component that is an alias, and its chain ends at a definition. -/
  aliases : ∀ {n path : String} {nullable : Option Bool}, (n, .ref path nullable) ∈ c.schemas →
    ∃ id e k, r.lookup n = some id ∧ c.LeadsTo e k path ∧ c.canonicalName path = .ok e ∧
      r.lookup e = some (r.canonical id)

theorem Registry.Completes.closed_references {c : Components} {b : Builder} {r : Registry}
    (h : r.Completes c b) : r.Closed c where
  targets := h.targets
  canonical hid := (h.settled_canonical hid).isObject fun hn => by
    rw [h.decorates.lookup] at hn
    obtain ⟨m, hm, hname⟩ := h.linkable.complete.ready.sound.index hn
    obtain ⟨m', hm', hd⟩ := h.decorates.node hm
    exact ⟨m', hm', hd.alike.name.trans hname⟩
  occurrences hm hocc := by
    cases hocc with
    | reference htarget _ hk hbase _ => exact h.canonical_target hm hk (hbase ▸ htarget)
  aliases hmem := by
    cases (h.linkable.complete.components hmem).mono h.view_le with
    | reference hname hnode htarget hk hbase _ =>
        obtain ⟨e, he, hcanonical⟩ := h.canonical_target hnode hk (hbase ▸ htarget)
        obtain ⟨k, hleads⟩ := Components.canonicalName_eq_ok_iff.1 he
        exact ⟨_, e, k, hname, hleads, he, hcanonical⟩

/-! ## The data -/

namespace Assembly

/-- The operations that are kept are some of all, in their order. -/
theorem keptOperations_sublist (seen : List String) (ops : List Operation) :
    (keptOperations seen ops).Sublist ops := by
  induction ops generalizing seen with
  | nil => exact List.Sublist.refl _
  | cons op rest ih =>
      rw [keptOperations]
      split
      · exact (ih seen).cons op
      · exact (ih (op.uniqueName :: seen)).cons_cons op

theorem mem_keptOperations {op : Operation} {seen : List String} {ops : List Operation}
    (h : op ∈ keptOperations seen ops) : op ∈ ops :=
  (keptOperations_sublist seen ops).mem h

theorem mem_of_mem_grouped {α : Type} {pairs : List (String × α)} {entry : String × List α} {v : α}
    (h : entry ∈ grouped pairs) (hv : v ∈ entry.2) : (entry.1, v) ∈ pairs := by
  obtain ⟨key, -, rfl⟩ := List.mem_map.1 h
  obtain ⟨⟨k, v'⟩, hpair, hsome⟩ := List.mem_filterMap.1 hv
  split at hsome
  · next hk =>
      cases hsome
      exact hk ▸ hpair
  · cases hsome

/-- An extension of a node is carried by a node that is there. -/
theorem lt_of_mem_markedSites {document : Entries Json} {nodes : Nodes} {ops : List Operation}
    {key : String} {site : ExtensionSite} {id : ModelId}
    (h : (key, site) ∈ markedSites document nodes ops) (hid : site.id? = some id) :
    id < nodes.size := by
  have hmark : ∀ {extensions : Entries Json} {s : ExtensionSite},
      (key, site) ∈ mark extensions s → site = s := by
    intro extensions s hs
    obtain ⟨_, -, heq⟩ := List.mem_map.1 hs
    exact (Prod.mk.inj heq).2.symm
  simp only [markedSites, operationSites, List.mem_append, List.mem_flatMap] at h
  rcases h with (h | ⟨⟨m, i⟩, hm, h⟩) | ⟨⟨op, i⟩, -, (h | ⟨⟨p, j⟩, -, h⟩) | ⟨⟨res, j⟩, -, h⟩⟩
  · rw [hmark h] at hid
    cases hid
  · rw [hmark h] at hid
    cases hid
    exact (List.mem_zipIdx' hm).1
  · rw [hmark h] at hid
    cases hid
  · rw [hmark h] at hid
    cases hid
  · rw [hmark h] at hid
    cases hid

end Assembly

theorem View.RepresentsOperation.ids {c : Components} {v : View} {d : DeclaredOperation}
    {op : Operation} (h : v.RepresentsOperation c d op) : ∀ id ∈ op.ids, ∃ m, v.node id m := by
  intro id hid
  rcases List.mem_append.1 hid with hid | hid
  · obtain ⟨p, hp, rfl⟩ := List.mem_map.1 hid
    exact h.nodes p hp
  · obtain ⟨res, hres, hmodel⟩ := List.mem_filterMap.1 hid
    obtain ⟨responses, hperm, hall⟩ := h.responses
    obtain ⟨entry, -, hrep⟩ := exists_of_forall₂ hall (hperm.mem_iff.1 hres)
    obtain ⟨spec, -, hcontent⟩ := hrep.content
    rw [hmodel] at hcontent
    cases hcontent with
    | content _ hstands => exact hstands.1

/-- A document whose only component refers to itself. -/
def loopDocument : Document where
  openapi := "3.0.0"
  info := { title := "Loop", version := "1" }
  components := some { schemas := [("Loop", .ref "#/components/schemas/Loop" none)] }

namespace Document

variable {d : Document} {options : Options}

/-- Every node that the data of a finished graph holds is there. -/
theorem assemble_ids_lt {c : Components} {b : Builder} {r : Registry} {ops : List Operation}
    {declared : List DeclaredOperation} (info : Info) (extensions : Entries Json)
    (hr : r.Completes c b) (hops : List.Forall₂ (r.view.RepresentsOperation c) declared ops) :
    ∀ id ∈ (Assembly.assemble info r ops extensions).ids, id < r.nodes.size := by
  intro id hid
  simp only [CodeGenData.ids, List.mem_append, List.mem_flatMap, List.mem_filterMap] at hid
  rcases hid with ((⟨m, hm, hid⟩ | hid) | ⟨op, hop, hid⟩) | ⟨entry, hentry, site, hsite, hid⟩
  · obtain ⟨i, hi⟩ := List.mem_iff_getElem?.1 hm
    have hnode : r.node? i = some m := by rw [← hi]; exact Array.getElem?_toList.symm
    exact hr.ids_lt hnode id hid
  · have hmodels : id ∈ r.named.map Prod.snd := List.mem_mergeSort.1 hid
    obtain ⟨⟨n, i⟩, hn, rfl⟩ := List.mem_map.1 hmodels
    refine hr.lookup_lt (Entries.get?_of_mem ?_ hn)
    rw [hr.decorates.named]
    exact hr.linkable.complete.ready.sound.distinct
  · obtain ⟨decl, -, hrep⟩ := exists_of_forall₂ hops (Assembly.mem_keptOperations hop)
    obtain ⟨m, hm⟩ := hrep.ids id hid
    exact Registry.node?_eq_some_lt hm
  · exact Assembly.lt_of_mem_markedSites (Assembly.mem_of_mem_grouped hentry hsite) hid

/-- No reference dangles in the data of a document, and a document in which the chain of an alias
    ends at no definition has none. -/
theorem codeGenData_closed (hc : (Entries.keys d.componentsOrNone.schemas).Nodup) :
    (∀ data, (d.codeGenData options).value = .ok data →
      ∃ r ops, d.finished options = .ok (r, ops) ∧
        data = Assembly.assemble d.info r ops d.vendorExtensions ∧
        (∀ id ∈ data.ids, id < data.nodes.size) ∧ r.Closed d.componentsOrNone) ∧
      ∀ n path nullable, (n, .ref path nullable) ∈ d.componentsOrNone.schemas →
        (∀ e k, ¬ d.componentsOrNone.LeadsTo e k path) →
        ∃ e, (d.codeGenData options).value = .error e := by
  have hclosed : ∀ data, (d.codeGenData options).value = .ok data →
      ∃ r ops, d.finished options = .ok (r, ops) ∧
        data = Assembly.assemble d.info r ops d.vendorExtensions ∧
        (∀ id ∈ data.ids, id < data.nodes.size) ∧ r.Closed d.componentsOrNone := by
    intro data h
    obtain ⟨r, ops, hfinished, rfl⟩ := codeGenData_ok h
    obtain ⟨⟨b, hr⟩, hops⟩ := finished_represents hc hfinished
    exact ⟨r, ops, hfinished, rfl, assemble_ids_lt _ _ hr hops, hr.closed_references⟩
  refine ⟨hclosed, fun n path nullable hmem hchain => ?_⟩
  cases h : (d.codeGenData options).value with
  | error e => exact ⟨e, rfl⟩
  | ok data =>
      obtain ⟨r, ops, -, -, -, hr⟩ := hclosed data h
      obtain ⟨id, e, k, -, hleads, -⟩ := hr.aliases hmem
      exact absurd hleads (hchain e k)

theorem codeGenData_closed_tree :
    (∃ data r ops, (treeDocument.codeGenData {}).value = .ok data ∧
      data = Assembly.assemble treeDocument.info r ops [] ∧
      (∀ id ∈ data.ids, id < data.nodes.size) ∧ r.Closed treeComponents) ∧
    ∃ e, (loopDocument.codeGenData {}).value = .error e := by
  obtain ⟨data, hdata⟩ := exists_eq_ok_of_isOk
    (show (treeDocument.codeGenData {}).value.isOk = true by decide +kernel)
  obtain ⟨r, ops, -, hassembled, hids, hr⟩ := (codeGenData_closed (by decide)).1 data hdata
  refine ⟨⟨data, r, ops, hdata, hassembled, hids, hr⟩, ?_⟩
  refine (codeGenData_closed (by decide)).2 "Loop" "#/components/schemas/Loop" none
    List.mem_cons_self fun e k hleads => ?_
  have hname : loopDocument.componentsOrNone.canonicalName "#/components/schemas/Loop" = .ok e :=
    Components.canonicalName_eq_ok_iff.2 ⟨k, hleads⟩
  have hloop : (loopDocument.componentsOrNone.canonicalName "#/components/schemas/Loop").isOk = false :=
    by decide +kernel
  rw [hname] at hloop
  cases hloop

end Document

end OpenApi
