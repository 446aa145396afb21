import OpenApi.Model.Composite
import OpenApi.Model.TypeExpr
import OpenApi.Proofs.Linking

set_option autoImplicit false

/-! # Decorating the linked graph

After the containers are linked, the graph is only decorated: composites are split and nodes get names
in the target languages. `Registry.Decorates` says so, and with it everything that is known of the
linked graph is known of the graph in the data. -/

namespace OpenApi

/-- A node that is decorated: all that may be new is its split into parts and what it is called. -/
structure Model.Decorates (m m' : Model) : Prop where
  same : ∃ models primitives mapped,
    m' = { m with composedModels := models, composedPrimitives := primitives, mapped := mapped }
  models : ∀ p ∈ m'.composedModels, p ∈ m.composedModels ∨ p ∈ m.properties
  primitives : ∀ p ∈ m'.composedPrimitives, p ∈ m.composedPrimitives ∨ p ∈ m.properties

theorem Model.Decorates.refl (m : Model) : m.Decorates m :=
  ⟨⟨_, _, _, rfl⟩, fun _ => .inl, fun _ => .inl⟩

theorem Model.Decorates.trans {m m₁ m' : Model} (h : m.Decorates m₁) (h' : m₁.Decorates m') :
    m.Decorates m' := by
  obtain ⟨⟨models, primitives, mapped, rfl⟩, hmodels, hprimitives⟩ := h
  obtain ⟨⟨models', primitives', mapped', rfl⟩, hmodels', hprimitives'⟩ := h'
  exact ⟨⟨_, _, _, rfl⟩, fun p hp => (hmodels' p hp).elim (hmodels p) .inr,
    fun p hp => (hprimitives' p hp).elim (hprimitives p) .inr⟩

theorem Model.Decorates.alike {m m' : Model} (h : m.Decorates m') : m.Alike m' := by
  obtain ⟨⟨models, primitives, mapped, rfl⟩, -, -⟩ := h
  exact ⟨rfl, rfl, rfl, rfl, rfl, rfl⟩

theorem Model.Decorates.link {m m' : Model} (h : m.Decorates m') : m'.link = m.link := by
  obtain ⟨⟨models, primitives, mapped, rfl⟩, -, -⟩ := h
  rfl

theorem Model.Decorates.format {m m' : Model} (h : m.Decorates m') : m'.format = m.format := by
  obtain ⟨⟨models, primitives, mapped, rfl⟩, -, -⟩ := h
  rfl

theorem Model.Decorates.isRequired {m m' : Model} (h : m.Decorates m') :
    m'.isRequired = m.isRequired := by
  obtain ⟨⟨models, primitives, mapped, rfl⟩, -, -⟩ := h
  rfl

namespace Registry

/-- A graph whose nodes are decorated. -/
structure Decorates (r r' : Registry) : Prop where
  named : r'.named = r.named
  size : r'.nodes.size = r.nodes.size
  node : ∀ {id : ModelId} {m : Model}, r.node? id = some m →
    ∃ m', r'.node? id = some m' ∧ m.Decorates m'

namespace Decorates

variable {c : Components} {r r₁ r' : Registry}

theorem refl (r : Registry) : r.Decorates r :=
  ⟨rfl, rfl, fun hm => ⟨_, hm, Model.Decorates.refl _⟩⟩

theorem trans (h : r.Decorates r₁) (h' : r₁.Decorates r') : r.Decorates r' where
  named := h'.named.trans h.named
  size := h'.size.trans h.size
  node hm := by
    obtain ⟨m₁, hm₁, hd⟩ := h.node hm
    obtain ⟨m', hm', hd'⟩ := h'.node hm₁
    exact ⟨m', hm', hd.trans hd'⟩

theorem lookup (h : r.Decorates r') : r'.lookup = r.lookup := by
  unfold Registry.lookup
  rw [h.named]

/-- Every decorated node was there. -/
theorem node_back (h : r.Decorates r') {id : ModelId} {m' : Model} (hm' : r'.node? id = some m') :
    ∃ m, r.node? id = some m ∧ m.Decorates m' := by
  have hlt := node?_eq_some_lt hm'
  rw [h.size] at hlt
  obtain ⟨m, hm⟩ := exists_node?_of_lt hlt
  obtain ⟨m'', hm'', hd⟩ := h.node hm
  rw [hm'] at hm''
  cases hm''
  exact ⟨m, hm, hd⟩

/-- What decoration makes no difference to is there when it was. -/
theorem exists_node_iff (h : r.Decorates r') {P : Model → Prop}
    (hP : ∀ {m m' : Model}, m.Decorates m' → (P m' ↔ P m)) {id : ModelId} :
    (∃ m, r'.node? id = some m ∧ P m) ↔ ∃ m, r.node? id = some m ∧ P m := by
  constructor
  · rintro ⟨m', hm', hp⟩
    obtain ⟨m, hm, hd⟩ := h.node_back hm'
    exact ⟨m, hm, (hP hd).1 hp⟩
  · rintro ⟨m, hm, hp⟩
    obtain ⟨m', hm', hd⟩ := h.node hm
    exact ⟨m', hm', (hP hd).2 hp⟩

theorem view_le (h : r.Decorates r') : r.view.Le c r'.view where
  node hm := by
    obtain ⟨m', hm', hd⟩ := h.node hm
    exact ⟨m', hm', hd.alike, hd.isRequired⟩
  link := by
    rintro id l ⟨m, hm, hl⟩
    obtain ⟨m', hm', hd⟩ := h.node hm
    exact ⟨m', hm', hd.link.trans hl⟩
  named {n id} hn := by
    show r'.lookup n = some id
    rw [h.lookup]
    exact hn
  waits hs := hs.elim

theorem next?_eq (h : r.Decorates r') : r'.next? = r.next? := by
  funext id
  have hiff : ∀ t, r'.next? id = some t ↔ r.next? id = some t := by
    intro t
    rw [next?_eq_some_iff, next?_eq_some_iff, h.lookup]
    exact h.exists_node_iff fun hd => by rw [hd.alike.kind, hd.alike.baseType]
  exact Option.ext hiff

theorem canonical_eq (h : r.Decorates r') (id : ModelId) : r'.canonical id = r.canonical id := by
  have hnext : r'.nodes.next? r'.lookup = r.nodes.next? r.lookup := h.next?_eq
  unfold canonical Nodes.canonical
  rw [hnext, h.size]

theorem settled (h : r.Decorates r') {id : ModelId} (hs : r.Settled id) : r'.Settled id :=
  hs.kept (fun hm => by
    obtain ⟨m', hm', hd⟩ := h.node hm
    exact ⟨m', hm', hd.alike.kind, hd.alike.baseType⟩) fun {n} hn => by rw [h.lookup, hn]

end Decorates

/-! ## Splitting composites -/

/-- The parts of a composite are its constituents. -/
theorem decorates_split (r : Registry) (m : Model) : m.Decorates (r.split m) :=
  ⟨⟨_, _, _, rfl⟩, fun _ hp => .inr (List.mem_of_mem_filter hp),
    fun _ hp => .inr (List.mem_of_mem_filter hp)⟩

theorem decorates_update {r : Registry} {id : ModelId} {f : Model → Model}
    (hf : ∀ m : Model, m.Decorates (f m)) : r.Decorates (r.update id f) where
  named := rfl
  size := size_update r id f
  node {i m} hm := by
    by_cases hi : i = id
    · subst hi
      exact ⟨f m, node?_update_self hm, hf m⟩
    · exact ⟨m, by rw [node?_update_of_ne hi, hm], Model.Decorates.refl m⟩

theorem decorates_flattenEach {r done r' : Registry} {ids : List ModelId}
    (h : (r.flattenEach ids done).value = .ok r') : done.Decorates r' := by
  induction ids generalizing done with
  | nil =>
      cases h
      exact Decorates.refl _
  | cons id rest ih =>
      rw [flattenEach] at h
      split at h
      · exact ih h
      · next m hm =>
          split at h
          · cases h
          · exact (decorates_update (decorates_split r)).trans (ih h)

theorem decorates_flatten {r r' : Registry} (h : r.flatten.value = .ok r') : r.Decorates r' :=
  decorates_flattenEach h

theorem decorates_mapLanguages (r : Registry) (langs : List Language) :
    r.Decorates (r.mapLanguages langs) where
  named := rfl
  size := Array.size_mapIdx
  node {id m} hm := by
    unfold node? mapLanguages
    unfold node? at hm
    rw [Array.getElem?_mapIdx, hm]
    exact ⟨_, rfl, ⟨_, _, _, rfl⟩, fun _ => .inl, fun _ => .inl⟩

end Registry

end OpenApi
