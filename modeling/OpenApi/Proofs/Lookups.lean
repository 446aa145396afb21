import OpenApi.Proofs.Services

set_option autoImplicit false

/-! # Lookups in the data

A graph finds its models by an index of names; the data that is assembled from it has the models alone, in
the order of their names, and searches them. `CodeGenData.AnswersAs` says that the search comes to
the same as the index, and so does every chain of references that is followed through it.
`Registry.IndexesNames` is what the index has to be like, and `Document.finished_indexesNames` says that
the index of every finished graph is like that. -/

namespace OpenApi

/-! ## The index -/

/-- The index leads from each name to a node of that name. -/
structure Registry.IndexesNames (r : Registry) : Prop where
  /-- Each entry leads to a node of its name. -/
  entries : ∀ n id, (n, id) ∈ r.named → ∃ m, r.node? id = some m ∧ m.name = n
  /-- No name has two entries. -/
  names : (Entries.keys r.named).Nodup

namespace Registry.IndexesNames

variable {r : Registry} {n : String} {id : ModelId}

theorem lookup_eq_some_iff (h : r.IndexesNames) : r.lookup n = some id ↔ (n, id) ∈ r.named :=
  ⟨Entries.mem_of_get?, Entries.get?_of_mem h.names⟩

theorem nameAt (h : r.IndexesNames) (hn : (n, id) ∈ r.named) : r.nodes.nameAt id = n := by
  obtain ⟨m, hm, hname⟩ := h.entries n id hn
  have hnode : r.nodes[id]? = some m := hm
  simp [Nodes.nameAt, hnode, hname]

/-- A node is registered just when it is registered under its own name. -/
theorem mem_ids_iff (h : r.IndexesNames) :
    id ∈ r.named.map Prod.snd ↔ (r.nodes.nameAt id, id) ∈ r.named := by
  constructor
  · intro hid
    obtain ⟨⟨n, id⟩, hn, rfl⟩ := List.mem_map.1 hid
    rw [h.nameAt hn]
    exact hn
  · intro hid
    exact List.mem_map_of_mem hid

/-- The names of the registered nodes are the names that they are registered under. -/
theorem map_nameAt (h : r.IndexesNames) :
    (r.named.map Prod.snd).map r.nodes.nameAt = Entries.keys r.named := by
  rw [List.map_map]
  exact List.map_congr_left fun ⟨n, id⟩ hn => h.nameAt hn

end Registry.IndexesNames

/-- The index of a finished graph leads to nodes of the names. -/
theorem Registry.Completes.indexesNames {c : Components} {b : Builder} {r : Registry}
    (h : r.Completes c b) : r.IndexesNames where
  entries n id hn := by
    have hsound := h.linkable.complete.ready.sound
    rw [h.decorates.named] at hn
    obtain ⟨m, hm, hname⟩ := hsound.index (Entries.get?_of_mem hsound.distinct hn)
    obtain ⟨m', hm', hd⟩ := h.decorates.node hm
    exact ⟨m', hm', hd.alike.name.trans hname⟩
  names := by
    rw [h.decorates.named]
    exact h.linkable.complete.ready.sound.distinct

theorem Document.finished_indexesNames {d : Document} {options : Options} {r : Registry}
    {ops : List Operation} (hc : (Entries.keys d.componentsOrNone.schemas).Nodup)
    (h : d.finished options = .ok (r, ops)) : r.IndexesNames := by
  obtain ⟨⟨b, hr⟩, -⟩ := finished_represents hc h
  exact hr.indexesNames

/-! ## Binary search -/

namespace CodeGenData

variable {d : CodeGenData} {name : String} {low high i : Nat} {id : ModelId}

/-- The models are in ascending order of their names, and no two have one name. -/
def Ascending (d : CodeGenData) : Prop :=
  d.models.toList.Pairwise fun a b => d.nodes.nameAt a < d.nodes.nameAt b

theorem Ascending.nameAt_lt (h : d.Ascending) {i j : Nat} {a b : ModelId} (hij : i < j)
    (ha : d.models[i]? = some a) (hb : d.models[j]? = some b) :
    d.nodes.nameAt a < d.nodes.nameAt b := by
  rw [← Array.getElem?_toList] at ha hb
  obtain ⟨hi, rfl⟩ := List.getElem?_eq_some_iff.1 ha
  obtain ⟨hj, rfl⟩ := List.getElem?_eq_some_iff.1 hb
  exact List.pairwise_iff_getElem.1 h i j hi hj hij

/-- Models stand in the order of their names. -/
theorem Ascending.lt_of_nameAt_lt (h : d.Ascending) {i j : Nat} {a b : ModelId}
    (ha : d.models[i]? = some a) (hb : d.models[j]? = some b)
    (hlt : d.nodes.nameAt a < d.nodes.nameAt b) : i < j := by
  by_contra hge
  rcases Nat.lt_or_eq_of_le (Nat.not_lt.1 hge) with hgt | rfl
  · exact Std.lt_irrefl (Std.lt_trans hlt (h.nameAt_lt hgt hb ha))
  · cases ha.symm.trans hb
    exact Std.lt_irrefl hlt

/-- Models of one name stand at one position. -/
theorem Ascending.eq_of_nameAt_eq (h : d.Ascending) {i j : Nat} {a b : ModelId}
    (ha : d.models[i]? = some a) (hb : d.models[j]? = some b)
    (heq : d.nodes.nameAt a = d.nodes.nameAt b) : a = b := by
  rcases Nat.lt_trichotomy i j with hlt | rfl | hgt
  · exact absurd (heq ▸ h.nameAt_lt hlt ha hb) Std.lt_irrefl
  · exact Option.some.inj (ha.symm.trans hb)
  · exact absurd (heq ▸ h.nameAt_lt hgt hb ha) Std.lt_irrefl

/-- What the search finds is there and has the name. -/
theorem findBetween_sound (h : d.findBetween name low high = some id) :
    id ∈ d.models ∧ d.nodes.nameAt id = name := by
  fun_induction d.findBetween name low high with
  | case1 => cases h
  | case2 low high _ middle id' hmiddle found hfound =>
      cases h
      exact ⟨Array.mem_of_getElem? hmiddle, hfound⟩
  | case3 _ _ _ _ _ _ _ _ _ ih => exact ih h
  | case4 _ _ _ _ _ _ _ _ _ ih => exact ih h
  | case5 => cases h

/-- A model between the bounds is found by its name. -/
theorem Ascending.findBetween_eq_some (h : d.Ascending) (hid : d.models[i]? = some id)
    (hlow : low ≤ i) (hhigh : i < high) (hsize : high ≤ d.models.size) :
    d.findBetween (d.nodes.nameAt id) low high = some id := by
  generalize hname : d.nodes.nameAt id = name
  fun_induction d.findBetween name low high with
  | case1 low high hlt middle hnone =>
      have : middle = (low + high) / 2 := rfl
      rw [Array.getElem?_eq_none_iff] at hnone
      omega
  | case2 low high hlt middle id' hmiddle found hfound =>
      rw [h.eq_of_nameAt_eq hmiddle hid (hfound.trans hname.symm)]
  | case3 low high hlt middle id' hmiddle found hne hless ih =>
      -- the model in the middle comes before the one that is looked for
      have hi : middle < i := h.lt_of_nameAt_lt hmiddle hid (hname ▸ hless)
      exact ih hi hhigh hsize
  | case4 low high hlt middle id' hmiddle found hne hmore ih =>
      have hless : name < found := Std.lt_of_le_of_ne (Std.not_lt.1 hmore) (Ne.symm hne)
      have hi : i < middle := h.lt_of_nameAt_lt hid hmiddle (hname ▸ hless)
      have : middle = (low + high) / 2 := rfl
      exact ih hlow hi (by omega)
  | case5 low high hge => omega

/-- Among models in the order of their names, the one of a name is found. -/
theorem Ascending.findModel?_eq_some_iff (h : d.Ascending) :
    d.findModel? name = some id ↔ id ∈ d.models ∧ d.nodes.nameAt id = name := by
  constructor
  · exact findBetween_sound
  · rintro ⟨hid, rfl⟩
    obtain ⟨i, hi⟩ := Array.mem_iff_getElem?.1 hid
    have hlt : i < d.models.size := (Array.getElem?_eq_some_iff.1 hi).1
    exact h.findBetween_eq_some hi (Nat.zero_le i) hlt (Nat.le_refl _)

end CodeGenData

/-! ## Assembled data -/

/-- Some data finds the models of a graph as its index does. -/
structure CodeGenData.AnswersAs (d : CodeGenData) (r : Registry) : Prop where
  /-- The models are those that are registered. -/
  models : ∀ id, id ∈ d.models ↔ ∃ n, r.lookup n = some id
  /-- Each is listed once, in ascending order of the octets of the names. -/
  ascending : d.models.toList.Pairwise fun a b =>
    Text.octets (d.nodes.nameAt a) < Text.octets (d.nodes.nameAt b)
  /-- A name is found as what it is registered. -/
  finds : ∀ n, d.findModel? n = r.lookup n
  /-- So it is found just when it is registered. -/
  found : ∀ n, (d.findModel? n).isSome = true ↔ n ∈ Entries.keys r.named
  /-- References lead to the same nodes. -/
  canonical : ∀ id, d.canonical id = r.canonical id

namespace Assembly

variable {r : Registry}

theorem mem_sortedModels {id : ModelId} : id ∈ sortedModels r ↔ id ∈ r.named.map Prod.snd :=
  List.mem_mergeSort

/-- Models that are registered under distinct names of their own ascend strictly. -/
theorem pairwise_sortedModels (h : r.IndexesNames) :
    (sortedModels r).Pairwise fun a b => r.nodes.nameAt a < r.nodes.nameAt b := by
  have hle : (sortedModels r).Pairwise fun a b => r.nodes.nameAt a ≤ r.nodes.nameAt b :=
    pairwise_mergeSort_key r.nodes.nameAt _
  have hperm : (sortedModels r).Perm (r.named.map Prod.snd) := List.mergeSort_perm _ _
  have hnames : ((sortedModels r).map r.nodes.nameAt).Nodup := by
    refine (hperm.map r.nodes.nameAt).nodup_iff.2 ?_
    rw [h.map_nameAt]
    exact h.names
  exact hle.imp₂ (fun a b hab hne => Std.lt_of_le_of_ne hab hne) (List.pairwise_map.1 hnames)

theorem assemble_answersAs (h : r.IndexesNames) (info : Info) (all : List Operation)
    (extensions : Entries Json) : (assemble info r all extensions).AnswersAs r := by
  have hmodels : ∀ id, id ∈ (assemble info r all extensions).models ↔ (r.nodes.nameAt id, id) ∈ r.named :=
    fun id => List.mem_toArray.trans (mem_sortedModels.trans h.mem_ids_iff)
  have hascending : (assemble info r all extensions).Ascending := pairwise_sortedModels h
  have hfinds : (assemble info r all extensions).findModel? = r.lookup := by
    funext n
    refine Option.ext fun id => ?_
    rw [hascending.findModel?_eq_some_iff, hmodels, h.lookup_eq_some_iff]
    constructor
    · rintro ⟨hid, rfl⟩
      exact hid
    · intro hn
      have hname := h.nameAt hn
      exact ⟨hname.symm ▸ hn, hname⟩
  refine ⟨fun id => ?_, hascending.imp Text.lt_iff_octets_lt.1, congrFun hfinds, fun n => ?_,
    fun id => ?_⟩
  · rw [hmodels]
    simp only [h.lookup_eq_some_iff]
    constructor
    · intro hid
      exact ⟨_, hid⟩
    · rintro ⟨n, hn⟩
      exact h.nameAt hn ▸ hn
  · rw [hfinds, ← not_iff_not, Option.not_isSome_iff_eq_none]
    exact Entries.get?_eq_none_iff
  · show r.nodes.canonical (assemble info r all extensions).findModel? id = _
    rw [hfinds]
    rfl

end Assembly

/-- The data that is assembled from a graph answers as the graph does, whatever operations there are,
    when the index of the graph leads from each name to a node of that name. The index of every graph
    from which the data of a document is assembled is like that. -/
theorem Assembly.assemble_lookups :
    (∀ (r : Registry) (info : Info) (all : List Operation) (extensions : Entries Json),
      r.IndexesNames → (assemble info r all extensions).AnswersAs r) ∧
    ∀ (d : Document) (options : Options) (data : CodeGenData),
      (Entries.keys d.componentsOrNone.schemas).Nodup → (d.codeGenData options).value = .ok data →
      ∃ r ops, d.finished options = .ok (r, ops) ∧ r.IndexesNames ∧
        data = assemble d.info r ops d.vendorExtensions := by
  refine ⟨fun r info all extensions h => assemble_answersAs h info all extensions,
    fun d options data hc h => ?_⟩
  obtain ⟨r, ops, hfinished, hdata⟩ := Document.codeGenData_ok h
  exact ⟨r, ops, hfinished, Document.finished_indexesNames hc hfinished, hdata⟩

/-- Two aliases of each other, and a node that refers to one of them under the name of the other. Names
    that differ in case alone or go beyond ASCII are registered out of order. -/
def aliasRegistry : Registry where
  nodes := #[{ name := "b", kind := .reference, baseType := "B" },
    { name := "B", kind := .reference, baseType := "b" },
    { name := "b", kind := .reference, baseType := "é" }, Model.any "é", Model.any "a"]
  named := [("é", 3), ("b", 0), ("B", 1), ("a", 4)]

theorem Assembly.assemble_lookups_aliases :
    aliasRegistry.IndexesNames ∧
      (∃ d : CodeGenData, d = assemble treeDocument.info aliasRegistry [] [] ∧
        d.models = #[1, 4, 0, 3] ∧ d.AnswersAs aliasRegistry ∧ d.findModel? "b" = some 0 ∧
        d.canonical 2 = 3) ∧
      ∃ r ops data, (treeDocument.codeGenData {}).value = .ok data ∧ r.IndexesNames ∧
        data = assemble treeDocument.info r ops [] := by
  have hindex : aliasRegistry.IndexesNames := by
    refine ⟨fun n id hn => ?_, by decide⟩
    simp only [aliasRegistry, List.mem_cons, Prod.mk.injEq, List.not_mem_nil, or_false] at hn
    rcases hn with ⟨rfl, rfl⟩ | ⟨rfl, rfl⟩ | ⟨rfl, rfl⟩ | ⟨rfl, rfl⟩ <;> exact ⟨_, rfl, rfl⟩
  have hsorted : sortedModels aliasRegistry = [1, 4, 0, 3] := by
    simp [sortedModels, aliasRegistry, List.mergeSort, List.MergeSort.Internal.splitInTwo,
      Nodes.nameAt, Model.any]
  obtain ⟨hanswers, hdocument⟩ := assemble_lookups
  have hdata := hanswers aliasRegistry treeDocument.info [] [] hindex
  obtain ⟨data, hok⟩ := exists_eq_ok_of_isOk
    (show (treeDocument.codeGenData {}).value.isOk = true by decide +kernel)
  obtain ⟨r, ops, -, hr, hassembled⟩ := hdocument treeDocument {} data (by decide) hok
  refine ⟨hindex, ⟨_, rfl, congrArg List.toArray hsorted, hdata, ?_, ?_⟩, r, ops, data, hok, hr,
    hassembled⟩
  · rw [hdata.finds]
    rfl
  · rw [hdata.canonical]
    decide +kernel

end OpenApi
