import OpenApi.Model.Links

set_option autoImplicit false

/-! # What single steps of a construction do

`Build.run` turns a step into a function on builders. Here stands what it is for each single step, how
a run of two steps splits into the runs of each, and what the changes of a registry do to its nodes
and its names. Later proofs read the steps through these lemmas only. -/

namespace OpenApi

namespace Registry

/-! ## Nodes and names after a change -/

theorem node?_eq_some_lt {r : Registry} {id : ModelId} {m : Model} (h : r.node? id = some m) :
    id < r.nodes.size := by
  unfold node? at h
  exact (Array.getElem?_eq_some_iff.1 h).1

theorem exists_node?_of_lt {r : Registry} {id : ModelId} (h : id < r.nodes.size) :
    ∃ m, r.node? id = some m :=
  ⟨r.nodes[id], Array.getElem?_eq_getElem h⟩

theorem node?_push (r : Registry) (m : Model) (id : ModelId) :
    (r.push m).2.node? id = if id = r.nodes.size then some m else r.node? id := by
  unfold node? push
  exact Array.getElem?_push

theorem node?_push_of_some {r : Registry} {m n : Model} {id : ModelId} (h : r.node? id = some n) :
    (r.push m).2.node? id = some n := by
  have hlt := node?_eq_some_lt h
  rw [node?_push, if_neg (Nat.ne_of_lt hlt), h]

@[simp] theorem node?_push_self (r : Registry) (m : Model) :
    (r.push m).2.node? r.nodes.size = some m := by
  rw [node?_push, if_pos rfl]

@[simp] theorem size_push (r : Registry) (m : Model) : (r.push m).2.nodes.size = r.nodes.size + 1 :=
  Array.size_push m

theorem node?_update (r : Registry) (id : ModelId) (f : Model → Model) (i : ModelId) :
    (r.update id f).node? i = if id = i then (r.node? i).map f else r.node? i := by
  unfold node? update Nodes.update
  exact Array.getElem?_modify

@[simp] theorem node?_update_self {r : Registry} {id : ModelId} {f : Model → Model} {m : Model}
    (h : r.node? id = some m) : (r.update id f).node? id = some (f m) := by
  rw [node?_update, if_pos rfl, h]
  rfl

@[simp] theorem node?_update_of_ne {r : Registry} {id i : ModelId} (h : i ≠ id) (f : Model → Model) :
    (r.update id f).node? i = r.node? i := by
  rw [node?_update, if_neg h.symm]

@[simp] theorem size_update (r : Registry) (id : ModelId) (f : Model → Model) :
    (r.update id f).nodes.size = r.nodes.size := by
  unfold update Nodes.update
  exact Array.size_modify

@[simp] theorem lookup_register_self (r : Registry) (name : String) (id : ModelId) :
    (r.register name id).lookup name = some id :=
  Entries.get?_put_self name id r.named

@[simp] theorem lookup_register_of_ne {r : Registry} {name n : String} (h : n ≠ name) (id : ModelId) :
    (r.register name id).lookup n = r.lookup n :=
  Entries.get?_put_of_ne h id r.named

end Registry

namespace Builder

/-! ## Builders after a step -/

/-- The builder after a node is added. -/
def pushed (b : Builder) (m : Model) : Builder := { b with registry := (b.registry.push m).2 }

/-- The builder after a node is changed. -/
def updated (b : Builder) (id : ModelId) (f : Model → Model) : Builder :=
  { b with registry := b.registry.update id f }

/-- The builder after a node is added and registered. -/
def declared (b : Builder) (name : String) : Builder :=
  { b with
    registry := (b.registry.push (Model.any name)).2.register name b.registry.nodes.size
    usedNames := b.usedNames.insert name }

/-- The builder after elements are left waiting. -/
def awaiting (b : Builder) (id : ModelId) (source : ElementSource) : Builder :=
  { b with pending := (id, source) :: b.pending }

/-- The builder after something is said. -/
def noted (b : Builder) (e : Event) : Builder := { b with log := b.log ++ [e] }

@[simp] theorem size_pushed (b : Builder) (m : Model) :
    (b.pushed m).registry.nodes.size = b.registry.nodes.size + 1 :=
  Registry.size_push _ _

@[simp] theorem size_updated (b : Builder) (id : ModelId) (f : Model → Model) :
    (b.updated id f).registry.nodes.size = b.registry.nodes.size :=
  Registry.size_update _ _ _

theorem source?_awaiting (b : Builder) (id : ModelId) (source : ElementSource) (i : ModelId) :
    (b.awaiting id source).source? i = if id = i then some source else b.source? i := by
  unfold source? awaiting
  by_cases h : id = i
  · simp [h]
  · simp [h]

theorem source?_dropSource (b : Builder) (id i : ModelId) :
    (b.dropSource id).source? i = if i = id then none else b.source? i := by
  obtain ⟨registry, used, pending, log⟩ := b
  unfold source? dropSource
  induction pending with
  | nil => simp
  | cons p ps ih =>
      simp only [List.filter_cons, List.find?_cons] at ih ⊢
      by_cases hp : p.1 = id
      · by_cases hi : i = id
        · simp [hp, hi]
        · have hne : ¬ id = i := fun h => hi h.symm
          simpa [hp, hi, hne] using ih
      · by_cases hi : p.1 = i
        · have hne : ¬ i = id := fun h => hp (hi.trans h)
          simp [hi, hne]
        · simpa [hp, hi] using ih

end Builder

namespace Build

variable {α β : Type}

/-! ## Runs -/

/-- A successful run of two steps is a successful run of each. -/
theorem run_bind_ok {m : Build α} {f : α → Build β} {b b' : Builder} {x : β}
    (h : run (m >>= f) b = (.ok x, b')) :
    ∃ a b₁, run m b = (.ok a, b₁) ∧ run (f a) b₁ = (.ok x, b') := by
  rw [run_bind] at h
  rcases hm : run m b with ⟨e | a, b₁⟩
  · simp [hm] at h
  · rw [hm] at h
    exact ⟨a, b₁, rfl, h⟩

theorem run_bind_of_ok {m : Build α} {f : α → Build β} {b b₁ : Builder} {a : α}
    (h : run m b = (.ok a, b₁)) : run (m >>= f) b = run (f a) b₁ := by
  rw [run_bind, h]

theorem run_pure (a : α) (b : Builder) : run (pure a) b = (.ok a, b) := rfl

theorem run_graph (b : Builder) : run graph b = (.ok b.registry, b) := rfl

theorem run_resolving_ok {r : Except ResolveError α} {a : α} {b b' : Builder}
    (h : run (resolving r) b = (.ok a, b')) : r = .ok a ∧ b = b' := by
  cases r with
  | ok x =>
      cases h
      exact ⟨rfl, rfl⟩
  | error e => cases h

theorem run_update_ok {id : ModelId} {f : Model → Model} {b b' : Builder} {u : Unit}
    (h : run (update id f) b = (.ok u, b')) : b.updated id f = b' := by
  cases h
  rfl

theorem run_push_ok {m : Model} {b b' : Builder} {id : ModelId}
    (h : run (push m) b = (.ok id, b')) : b.registry.nodes.size = id ∧ b.pushed m = b' := by
  cases h
  exact ⟨rfl, rfl⟩

theorem run_note_ok {e : Event} {b b' : Builder} {u : Unit} (h : run (note e) b = (.ok u, b')) :
    b.noted e = b' := by
  cases h
  rfl

theorem run_await_ok {id : ModelId} {source : ElementSource} {b b' : Builder} {u : Unit}
    (h : run (await id source) b = (.ok u, b')) : b.awaiting id source = b' := by
  cases h
  rfl

theorem run_pure_ok {a x : α} {b b' : Builder} (h : run (pure a) b = (.ok x, b')) :
    a = x ∧ b = b' := by
  cases h
  exact ⟨rfl, rfl⟩

/-- Following references leaves the builder as it is, whether it succeeds or not. -/
theorem run_resolving_snd (r : Except ResolveError α) (b : Builder) :
    (run (resolving r) b).2 = b := by
  cases r <;> rfl

/-- Promotion declares a free name and fills the node. -/
theorem run_promote (hint : String) (fill : ModelId → String → Build Unit) (b : Builder) :
    run (promote hint fill) b =
      run (do
        fill b.registry.nodes.size (freeName b.usedNames hint)
        pure (freeName b.usedNames hint, b.registry.nodes.size))
        ((b.noted (.promoting (freeName b.usedNames hint))).declared
          (freeName b.usedNames hint)) := rfl

end Build

end OpenApi
