import OpenApi.Proofs.Flattening
import OpenApi.Proofs.Forward
import OpenApi.Proofs.Identifiers

set_option autoImplicit false

/-! # How types are read off the graph

`Registry.Reads` are the rules by which the type of a node is read: the node itself is taken apart, and so
are the nodes that nameless containers hold, while named models appear by their names. With the guard a
node that is being taken apart is met again as a node of anything. By these rules each node of any
graph within its bounds has one type, and it is `typeExpr` (`InBounds.reads_iff`). `Registry.Nests` are the
nodes that are met on the way. In a graph whose links lead forward none of them is met twice, so that
the rules without the guard say the same (`Forward.reads_iff`). -/

namespace OpenApi

/-- The type of a node that holds no elements. -/
def Model.ownType? (m : Model) : Option TypeExpr :=
  match m.kind with
  | .reference => some (.named m.baseType)
  | .composite _ => some (.named m.name)
  | .primitive => some (.primitive m.baseType m.format)
  | .enum => some (.literals m.enumValues)
  | .array | .dictionary => none

theorem Model.Decorates.ownType?_eq {m m' : Model} (h : m.Decorates m') :
    m'.ownType? = m.ownType? := by
  obtain ⟨⟨models, primitives, mapped, rfl⟩, -, -⟩ := h
  rfl

namespace Registry

open TypeExpr

/-! ## The rules -/

/-- The elements of a container are not the values that the items of an array may have. -/
def NoLiterals (r : Registry) (k : ModelKind) (l : ModelId) : Prop :=
  k = .array → ∃ n, r.node? (r.canonical l) = some n ∧ n.kind ≠ .enum

section Rules

variable (r : Registry) (guarded : Bool)

mutual

/-- The type of a node, while the nodes in `path` are being taken apart. -/
inductive Reads : List ModelId → ModelId → TypeExpr → Prop
  | again {path : List ModelId} {id : ModelId} {m : Model} :
      guarded = true → r.node? id = some m → id ∈ path → Reads path id .any
  | own {path : List ModelId} {id : ModelId} {m : Model} {t : TypeExpr} :
      (guarded = true → id ∉ path) → r.node? id = some m → m.ownType? = some t →
      Reads path id (nullableIf m.isNullable t)
  | container {path : List ModelId} {id : ModelId} {m : Model} {e : TypeExpr} :
      (guarded = true → id ∉ path) → r.node? id = some m → m.kind.isContainer = true →
      ReadsElements (id :: path) m.kind m.link e →
      Reads path id (nullableIf m.isNullable (ofContainer m.kind e))

/-- The type of the elements of a container that is being taken apart. -/
inductive ReadsElements : List ModelId → ModelKind → Option ModelId → TypeExpr → Prop
  | unlinked {path : List ModelId} {k : ModelKind} : ReadsElements path k none .any
  | literals {path : List ModelId} {l : ModelId} {n : Model} :
      r.node? (r.canonical l) = some n → n.kind = .enum →
      ReadsElements path .array (some l) (.primitive n.baseType n.format)
  | named {path : List ModelId} {k : ModelKind} {l : ModelId} {n : Model} :
      r.NoLiterals k l → r.node? l = some n → r.isNamed l = true →
      ReadsElements path k (some l) (nullableIf n.isNullable (.named n.name))
  | inner {path : List ModelId} {k : ModelKind} {l : ModelId} {e : TypeExpr} :
      r.NoLiterals k l → r.isNamed l = false → Reads path l e → ReadsElements path k (some l) e

end

/-- The elements of a container are taken apart with it. -/
def Inner (id l : ModelId) : Prop :=
  ∃ m, r.node? id = some m ∧ m.kind.isContainer = true ∧ m.link = some l ∧ r.NoLiterals m.kind l ∧
    r.isNamed l = false

/-- While the type of a node is read with the guard, the type of another one is asked for inside the
    nodes in `path`. -/
inductive Nests (top : ModelId) : List ModelId → ModelId → Prop
  | start : Nests top [] top
  | inner {path : List ModelId} {id l : ModelId} :
      Nests top path id → id ∉ path → r.Inner id l → Nests top (id :: path) l

/-- The index of names and the links stay within the graph. -/
structure InBounds : Prop where
  lookup : ∀ n id, r.lookup n = some id → id < r.nodes.size
  link : ∀ id l m, r.node? id = some m → m.link = some l → l < r.nodes.size

end Rules

variable {r r' : Registry} {guarded : Bool} {path fresh : List ModelId} {id l : ModelId} {m n : Model}
  {k : ModelKind} {link : Option ModelId} {t t' e e' : TypeExpr}

/-! ## One type -/

theorem not_isContainer_of_ownType? (h : m.ownType? = some t) : m.kind.isContainer = false := by
  cases hk : m.kind <;> simp_all [Model.ownType?, ModelKind.isContainer]

theorem NoLiterals.kind_ne (h : r.NoLiterals .array l) (hn : r.node? (r.canonical l) = some n) :
    n.kind ≠ .enum := by
  obtain ⟨n', hn', hk⟩ := h rfl
  rw [hn] at hn'
  cases hn'
  exact hk

mutual

theorem Reads.unique {path : List ModelId} {id : ModelId} {t t' : TypeExpr} :
    r.Reads guarded path id t → r.Reads guarded path id t' → t = t'
  | .again hg hm hid, h' => by
      cases h' with
      | again => rfl
      | own hfresh => exact absurd hid (hfresh hg)
      | container hfresh => exact absurd hid (hfresh hg)
  | .own hfresh hm ht, h' => by
      cases h' with
      | again hg _ hid => exact absurd hid (hfresh hg)
      | own _ hm' ht' =>
          rw [hm] at hm'
          cases hm'
          rw [ht] at ht'
          cases ht'
          rfl
      | container _ hm' hk' =>
          rw [hm] at hm'
          cases hm'
          rw [not_isContainer_of_ownType? ht] at hk'
          cases hk'
  | .container hfresh hm hk he, h' => by
      cases h' with
      | again hg _ hid => exact absurd hid (hfresh hg)
      | own _ hm' ht' =>
          rw [hm] at hm'
          cases hm'
          rw [not_isContainer_of_ownType? ht'] at hk
          cases hk
      | container _ hm' _ he' =>
          rw [hm] at hm'
          cases hm'
          rw [he.unique he']

theorem ReadsElements.unique {path : List ModelId} {k : ModelKind} {link : Option ModelId}
    {e e' : TypeExpr} :
    r.ReadsElements guarded path k link e → r.ReadsElements guarded path k link e' → e = e'
  | .unlinked, h' => by
      cases h'
      rfl
  | .literals hn hk, h' => by
      cases h' with
      | literals hn' =>
          rw [hn] at hn'
          cases hn'
          rfl
      | named hno => exact absurd hk (hno.kind_ne hn)
      | inner hno => exact absurd hk (hno.kind_ne hn)
  | .named hno hn hnamed, h' => by
      cases h' with
      | literals hn' hk => exact absurd hk (hno.kind_ne hn')
      | named _ hn' =>
          rw [hn] at hn'
          cases hn'
          rfl
      | inner _ hnot =>
          rw [hnamed] at hnot
          cases hnot
  | .inner hno hnot he, h' => by
      cases h' with
      | literals hn' hk => exact absurd hk (hno.kind_ne hn')
      | named _ _ hnamed =>
          rw [hnamed] at hnot
          cases hnot
      | inner _ _ he' => exact he.unique he'

end

/-! ## The type that is read -/

/-- The nodes that may be taken apart are those that are not being taken apart. -/
structure Apart (r : Registry) (path fresh : List ModelId) : Prop where
  nodup : fresh.Nodup
  mem_iff : ∀ i, i ∈ fresh ↔ i < r.nodes.size ∧ i ∉ path

theorem Apart.start (r : Registry) : r.Apart [] (List.range r.nodes.size) where
  nodup := List.nodup_range
  mem_iff i := by simp

theorem Apart.step (h : r.Apart path fresh) (id : ModelId) : r.Apart (id :: path) (fresh.erase id) where
  nodup := h.nodup.erase id
  mem_iff i := by
    rw [h.nodup.mem_erase_iff, h.mem_iff, List.mem_cons, not_or]
    exact and_left_comm

/-- Following references stays within the graph. -/
theorem InBounds.canonical_lt (h : r.InBounds) (hid : id < r.nodes.size) :
    r.canonical id < r.nodes.size := by
  have hchain : Relation.ReflTransGen (fun a b => r.next? a = some b) id (r.canonical id) := by
    unfold canonical Nodes.canonical
    split
    · exact .refl
    · exact chase_reachable _ _ _
  rcases Relation.ReflTransGen.cases_tail hchain with heq | ⟨i, -, hlast⟩
  · rwa [heq]
  · obtain ⟨m, -, -, hl, -⟩ := next?_eq_some_iff.1 hlast
    exact h.lookup _ _ hl

theorem typeOf_own (hm : r.node? id = some m) (hid : id ∈ fresh) (ht : m.ownType? = some t) :
    r.typeOf fresh id = nullableIf m.isNullable t := by
  rw [typeOf, hm]
  simp only [hid, if_true]
  unfold Model.ownType? at ht
  cases hk : m.kind <;> simp_all

theorem readsElements_elementType (hno : ∀ l, link = some l → r.NoLiterals k l)
    (hlink : ∀ l, link = some l → l < r.nodes.size ∧ r.Reads true path l (r.typeOf fresh l)) :
    r.ReadsElements true path k link (r.elementType fresh link) := by
  cases link with
  | none =>
      rw [elementType]
      exact .unlinked
  | some l =>
      obtain ⟨hl, hreads⟩ := hlink l rfl
      obtain ⟨n, hn⟩ := exists_node?_of_lt hl
      simp only [elementType, hn]
      cases hnamed : r.isNamed l with
      | true => exact .named (hno l rfl) hn hnamed
      | false => exact .inner (hno l rfl) hnamed hreads

theorem InBounds.readsElements_itemType (h : r.InBounds)
    (hlink : ∀ l, link = some l → l < r.nodes.size ∧ r.Reads true path l (r.typeOf fresh l)) :
    r.ReadsElements true path .array link (r.itemType fresh link) := by
  cases link with
  | none =>
      rw [itemType, elementType]
      exact .unlinked
  | some l =>
      obtain ⟨n, hn⟩ := exists_node?_of_lt (h.canonical_lt (hlink l rfl).1)
      rw [itemType, Option.bind_some, hn]
      by_cases hk : n.kind = .enum
      · simp only [hk, if_true]
        exact .literals hn hk
      · simp only [hk, if_false]
        refine readsElements_elementType ?_ hlink
        rintro _ ⟨⟩ -
        exact ⟨n, hn, hk⟩

/-- What is read off a graph within its bounds is `typeOf`. -/
theorem InBounds.reads_typeOf (h : r.InBounds) (hid : id < r.nodes.size) (hpath : r.Apart path fresh) :
    r.Reads true path id (r.typeOf fresh id) := by
  induction hsize : fresh.length using Nat.strong_induction_on generalizing path fresh id with
  | _ size ih =>
    obtain ⟨m, hm⟩ := exists_node?_of_lt hid
    by_cases hmem : id ∈ fresh
    · have hfresh : true = true → id ∉ path := fun _ => ((hpath.mem_iff id).1 hmem).2
      have hlink : ∀ l, m.link = some l →
          l < r.nodes.size ∧ r.Reads true (id :: path) l (r.typeOf (fresh.erase id) l) := by
        intro l hl
        have hlt := h.link id l m hm hl
        refine ⟨hlt, ih _ ?_ hlt (hpath.step id) rfl⟩
        rw [← hsize]
        exact length_erase_lt_of_mem hmem
      cases ht : m.ownType? with
      | some t =>
          rw [typeOf_own hm hmem ht]
          exact .own hfresh hm ht
      | none =>
          rw [typeOf, hm]
          simp only [hmem, if_true]
          cases hk : m.kind with
          | array =>
              have hread := Reads.container hfresh hm (by rw [hk]; rfl)
                (hk ▸ h.readsElements_itemType hlink)
              rwa [hk] at hread
          | dictionary =>
              have hno : ∀ l, m.link = some l → r.NoLiterals .dictionary l := by
                rintro _ - ⟨⟩
              have hread := Reads.container hfresh hm (by rw [hk]; rfl)
                (hk ▸ readsElements_elementType hno hlink)
              rwa [hk] at hread
          | primitive => simp [Model.ownType?, hk] at ht
          | reference => simp [Model.ownType?, hk] at ht
          | enum => simp [Model.ownType?, hk] at ht
          | composite => simp [Model.ownType?, hk] at ht
    · have hvisited : id ∈ path := by
        by_contra hnot
        exact hmem ((hpath.mem_iff id).2 ⟨hid, hnot⟩)
      rw [typeOf, hm]
      simp only [hmem, if_false]
      exact .again rfl hm hvisited

/-- Each node of a graph within its bounds has one type. -/
theorem InBounds.reads_iff (h : r.InBounds) (hid : id < r.nodes.size) :
    r.Reads true [] id t ↔ t = r.typeExpr id := by
  have hreads : r.Reads true [] id (r.typeExpr id) := h.reads_typeOf hid (.start r)
  constructor
  · exact fun ht => ht.unique hreads
  · rintro rfl
    exact hreads

/-- With the guard no more nodes are taken apart inside each other than the graph has. -/
theorem Nests.length_le {top : ModelId} (h : r.Nests top path id) : path.length ≤ r.nodes.size := by
  have hpath : path.Nodup ∧ ∀ i ∈ path, i < r.nodes.size := by
    induction h with
    | start => exact ⟨List.nodup_nil, fun _ hi => by cases hi⟩
    | inner _ hid hl ih =>
        obtain ⟨m, hm, -⟩ := hl
        refine ⟨List.nodup_cons.2 ⟨hid, ih.1⟩, fun i hi => ?_⟩
        rcases List.mem_cons.1 hi with rfl | hi
        · exact node?_eq_some_lt hm
        · exact ih.2 i hi
  have hsub : path ⊆ List.range r.nodes.size := fun i hi => List.mem_range.2 (hpath.2 i hi)
  simpa using (hpath.1.subperm hsub).length_le

/-- An array that is linked to itself. -/
def loopedArray : Registry where
  nodes := #[{ name := "items", kind := .array, baseType := "array", link := some 0 }]

theorem inBounds_loopedArray : loopedArray.InBounds where
  lookup n id h := by cases h
  link id l m hm hl := by
    obtain rfl : id = 0 := Nat.lt_one_iff.1 (node?_eq_some_lt hm)
    cases hm
    cases hl
    exact Nat.zero_lt_one

/-- Without a name on its circle an array holds anything. -/
example : loopedArray.typeExpr 0 = .array .any := by cbv

/-! ## Links that lead forward -/

/-- Elements that are taken apart with a container have a later node. -/
theorem Forward.inner_lt (h : r.Forward) (hindex : r.IndexesNames) (hl : r.Inner id l) : id < l := by
  obtain ⟨m, hm, -, hlink, -, hnot⟩ := hl
  rcases h id l m hm hlink with hlt | ⟨n, hn⟩
  · exact hlt
  · obtain ⟨m', hm', rfl⟩ := hindex.entries n l (hindex.lookup_eq_some_iff.1 hn)
    rw [isNamed_iff.2 ⟨m', hm', hn⟩] at hnot
    cases hnot

theorem Forward.cons_lt (h : r.Forward) (hindex : r.IndexesNames) (hl : r.Inner id l)
    (hpath : ∀ i ∈ path, i < id) : ∀ i ∈ id :: path, i < l := by
  have hlt := h.inner_lt hindex hl
  intro i hi
  rcases List.mem_cons.1 hi with rfl | hi
  · exact hlt
  · exact Nat.lt_trans (hpath i hi) hlt

/-- No node is met inside itself. -/
theorem Forward.not_mem_of_nests (h : r.Forward) (hindex : r.IndexesNames) {top : ModelId}
    (hnests : r.Nests top path id) : id ∉ path := by
  have hpath : ∀ i ∈ path, i < id := by
    induction hnests with
    | start => exact fun _ hi => by cases hi
    | inner _ _ hl ih => exact h.cons_lt hindex hl ih
  exact fun hid => Nat.lt_irrefl id (hpath id hid)

mutual

/-- Where the nodes that are being taken apart come before a node, the guard makes no difference. -/
theorem Reads.unguarded (h : r.Forward) (hindex : r.IndexesNames) {path : List ModelId} {id : ModelId}
    {t : TypeExpr} (hpath : ∀ i ∈ path, i < id) : r.Reads true path id t → r.Reads false path id t
  | .again _ _ hid => absurd (hpath id hid) (Nat.lt_irrefl id)
  | .own _ hm ht => .own (fun hg => by cases hg) hm ht
  | .container _ hm hk he =>
      .container (fun hg => by cases hg) hm hk (he.unguarded h hindex fun _ hl hno hnot =>
        h.cons_lt hindex ⟨_, hm, hk, hl, hno, hnot⟩ hpath)

theorem ReadsElements.unguarded (h : r.Forward) (hindex : r.IndexesNames) {path : List ModelId}
    {k : ModelKind} {link : Option ModelId} {e : TypeExpr}
    (hpath : ∀ l, link = some l → r.NoLiterals k l → r.isNamed l = false → ∀ i ∈ path, i < l) :
    r.ReadsElements true path k link e → r.ReadsElements false path k link e
  | .unlinked => .unlinked
  | .literals hn hk => .literals hn hk
  | .named hno hn hnamed => .named hno hn hnamed
  | .inner hno hnot he => .inner hno hnot (he.unguarded h hindex (hpath _ rfl hno hnot))

end

/-- Where links lead forward, the type of each node is read without the guard. -/
theorem Forward.reads_iff (h : r.Forward) (hindex : r.IndexesNames) (hbounds : r.InBounds)
    (hid : id < r.nodes.size) : r.Reads false [] id t ↔ t = r.typeExpr id := by
  have hreads : r.Reads false [] id (r.typeExpr id) :=
    ((hbounds.reads_iff hid).2 rfl).unguarded h hindex fun _ hi => by cases hi
  constructor
  · exact fun ht => ht.unique hreads
  · rintro rfl
    exact hreads

/-! ## Decoration -/

theorem Decorates.noLiterals (h : r.Decorates r') (hno : r.NoLiterals k l) : r'.NoLiterals k l := by
  intro hk
  obtain ⟨n, hn, hkind⟩ := hno hk
  obtain ⟨n', hn', hd⟩ := h.node hn
  exact ⟨n', by rw [h.canonical_eq, hn'], hd.alike.kind ▸ hkind⟩

theorem Decorates.inBounds (h : r.Decorates r') (hr : r'.InBounds) : r.InBounds where
  lookup n id hn := by
    rw [← h.size]
    exact hr.lookup n id (by rw [h.lookup, hn])
  link id l m hm hl := by
    obtain ⟨m', hm', hd⟩ := h.node hm
    rw [← h.size]
    exact hr.link id l m' hm' (hd.link.trans hl)

mutual

/-- Decoration makes no difference to types. -/
theorem Reads.decorated (h : r.Decorates r') {path : List ModelId} {id : ModelId} {t : TypeExpr} :
    r.Reads guarded path id t → r'.Reads guarded path id t
  | .again hg hm hid => by
      obtain ⟨m', hm', -⟩ := h.node hm
      exact .again hg hm' hid
  | .own hfresh hm ht => by
      obtain ⟨m', hm', hd⟩ := h.node hm
      rw [← hd.alike.isNullable]
      exact .own hfresh hm' (hd.ownType?_eq.trans ht)
  | .container hfresh hm hk he => by
      obtain ⟨m', hm', hd⟩ := h.node hm
      have he' := he.decorated h
      rw [← hd.alike.kind] at hk he' ⊢
      rw [← hd.link] at he'
      rw [← hd.alike.isNullable]
      exact .container hfresh hm' hk he'

theorem ReadsElements.decorated (h : r.Decorates r') {path : List ModelId} {k : ModelKind}
    {link : Option ModelId} {e : TypeExpr} :
    r.ReadsElements guarded path k link e → r'.ReadsElements guarded path k link e
  | .unlinked => .unlinked
  | .literals hn hk => by
      obtain ⟨n', hn', hd⟩ := h.node hn
      rw [← hd.alike.kind] at hk
      rw [← h.canonical_eq] at hn'
      rw [← hd.alike.baseType, ← hd.format]
      exact .literals hn' hk
  | .named hno hn hnamed => by
      obtain ⟨n', hn', hd⟩ := h.node hn
      rw [← h.isNamed_eq] at hnamed
      rw [← hd.alike.isNullable, ← hd.alike.name]
      exact .named (h.noLiterals hno) hn' hnamed
  | .inner hno hnot he =>
      .inner (h.noLiterals hno) (by rw [h.isNamed_eq, hnot]) (he.decorated h)

end

theorem Decorates.typeExpr_eq (h : r.Decorates r') (hr : r'.InBounds) (hid : id < r.nodes.size) :
    r'.typeExpr id = r.typeExpr id := by
  have hreads := (((h.inBounds hr).reads_iff hid).2 rfl).decorated h
  rw [hr.reads_iff (h.size ▸ hid)] at hreads
  exact hreads.symm

/-- Every node is called by its type in each of the languages. -/
theorem exists_mapped_type {langs : List Language} {lang : Language}
    (hm : (r.mapLanguages langs).node? id = some m) (hlang : lang ∈ langs) :
    ∃ mapped, m.mapped.get? lang = some mapped ∧ mapped.type = (r.typeExpr id).render lang := by
  rw [node?_mapLanguages] at hm
  obtain ⟨m₀, -, rfl⟩ := Option.map_eq_some_iff.1 hm
  exact ⟨_, by rw [PerLanguage.get?_fill, if_pos hlang], rfl⟩

theorem typeExpr_reference (hm : r.node? id = some m) (hk : m.kind = .reference) :
    r.typeExpr id = nullableIf m.isNullable (.named m.baseType) :=
  typeOf_own hm (List.mem_range.2 (node?_eq_some_lt hm)) (by rw [Model.ownType?, hk])

theorem Completes.inBounds {c : Components} {b : Builder} (h : r.Completes c b) : r.InBounds where
  lookup _ _ hn := h.lookup_lt hn
  link id l m hm hl := h.ids_lt hm l (by simp [Model.ids, hl])

end Registry

/-! ## The types in the data -/

namespace TypeExpr

/-- The text of a type that admits null besides. -/
def orNull (lang : Language) (text : String) : String :=
  match lang with
  | .typescript => text ++ " | null"
  | .python => "Optional[" ++ text ++ "]"

theorem render_nullableIf (lang : Language) (b : Bool) (t : TypeExpr) :
    (nullableIf b t).render lang = if b then orNull lang (t.render lang) else t.render lang := by
  cases b with
  | false => rfl
  | true => cases lang <;> rfl

end TypeExpr

namespace Document

open Build Builder Registry TypeExpr

variable {d : Document} {options : Options} {ops : List Operation} {r : Registry}

/-- The links in the graph of the data lead forward. -/
theorem finished_forward (hc : (Entries.keys d.componentsOrNone.schemas).Nodup)
    (h : d.finished options = .ok (r, ops)) : r.Forward := by
  obtain ⟨collected, b, flat, hrun, hflat, rfl, -, -⟩ := finished_ok h
  obtain ⟨b₁, e, b₂, hadd, hcollect, hlink⟩ := buildGraph_ok hrun
  have hreachable : b.Reachable d.componentsOrNone :=
    .linkAll (.collect (.note e (.components hadd)) rfl hcollect) hlink
  have hdecorates := (decorates_flatten hflat).trans (decorates_mapLanguages flat options.languages)
  exact hdecorates.forward (hreachable.forward hc)

/-- The type of each node, in each language, is what is read off the graph of the data. -/
theorem exists_mapped_typeExpr (hc : (Entries.keys d.componentsOrNone.schemas).Nodup)
    (h : d.finished options = .ok (r, ops)) {id : ModelId} {m : Model} (hm : r.node? id = some m)
    {lang : Language} (hlang : lang ∈ options.languages) :
    ∃ mapped, m.mapped.get? lang = some mapped ∧ mapped.type = (r.typeExpr id).render lang := by
  obtain ⟨⟨b, hr⟩, -⟩ := finished_represents hc h
  obtain ⟨collected, b', flat, -, -, rfl, -, -⟩ := finished_ok h
  have hd := decorates_mapLanguages flat options.languages
  have hlt : id < flat.nodes.size := hd.size ▸ node?_eq_some_lt hm
  obtain ⟨mapped, hmapped, htype⟩ := exists_mapped_type hm hlang
  exact ⟨mapped, hmapped, by rw [htype, hd.typeExpr_eq hr.inBounds hlt]⟩

/-- A reference is called by the identifier of the model that it refers to. -/
theorem exists_mapped_reference (hc : (Entries.keys d.componentsOrNone.schemas).Nodup)
    (h : d.finished options = .ok (r, ops)) {id : ModelId} {m : Model} (hm : r.node? id = some m)
    (hk : m.kind = .reference) :
    ∃ i n, r.lookup m.baseType = some i ∧ r.node? i = some n ∧ n.name = m.baseType ∧
      ∀ lang ∈ options.languages, ∃ t u, m.mapped.get? lang = some t ∧ n.mapped.get? lang = some u ∧
        t.type = if m.isNullable then orNull lang u.identifier else u.identifier := by
  obtain ⟨⟨b, hr⟩, -⟩ := finished_represents hc h
  obtain ⟨i, hi⟩ := hr.targets hm hk
  obtain ⟨n, hn, hname⟩ := hr.indexesNames.entries _ i (Entries.mem_of_get? hi)
  refine ⟨i, n, hi, hn, hname, fun lang hlang => ?_⟩
  obtain ⟨t, ht, htype⟩ := exists_mapped_typeExpr hc h hm hlang
  obtain ⟨collected, b', flat, -, -, rfl, -, -⟩ := finished_ok h
  obtain ⟨u, hu, hidentifier⟩ := exists_mapped hn (hname ▸ hi) hlang
  refine ⟨t, u, ht, hu, ?_⟩
  rw [htype, typeExpr_reference hm hk, render_nullableIf, hidentifier, hname]
  rfl

end Document

end OpenApi
