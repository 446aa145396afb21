import OpenApi.Model.Growth

set_option autoImplicit false

/-! # Linking containers to their elements

`Build.linkAll` visits every node of the graph once, from the first one on and depth first, and builds the
elements of the containers that it meets. That adds nodes, which are visited in turn. The visit ends
because each step takes a node from those not visited yet, and the nodes it adds come out of what the
waiting elements can still add. -/

namespace OpenApi

namespace Build

/-! ## One node -/

/-- Builds the elements of a container; answers their node and the nodes to visit that this has
    added. A node for anything has nothing to visit. -/
def elements (c : Components) (source : ElementSource) : Build (ModelId × List ModelId) := do
  match source.schema with
  | some s => do
      let first := (← graph).nodes.size
      let link ← linkTarget c source.hint s
      let last := (← graph).nodes.size
      pure (link, List.range' first (last - first))
  | none => do pure (← push (Model.any source.hint), [])

/-- Takes the elements that wait for a container. -/
def takeSource (id : ModelId) : Build (Option ElementSource) :=
  modifyGet fun b => (b.source? id, b.dropSource id)

/-- Links a container to its elements; answers the nodes to visit that this has added. -/
def linkNode (c : Components) (id : ModelId) : Build (List ModelId) := do
  if (← graph).holds id fun m => m.kind.isContainer && m.link.isNone then do
    let source ← takeSource id
    let (link, added) ← elements c (source.getD ⟨"value", none⟩)
    update id fun m => { m with link := some link }
    pure added
  else pure []

/-! ## The visits end -/

/-- The nodes to visit come out of what the waiting elements can add. -/
def Spends (m : Build (ModelId × List ModelId)) (k : Nat) : Prop :=
  ∀ b a b', run m b = (.ok a, b') → a.2.length + b'.pendingWeight ≤ b.pendingWeight + k

theorem elements_spends (c : Components) (source : ElementSource) :
    Spends (elements c source) source.weight := by
  obtain ⟨hint, _ | s⟩ := source
  · intro b a b' h
    have hp : run (push (Model.any hint)) b = (.ok b.registry.nodes.size,
      { b with registry := (b.registry.push (Model.any hint)).2 }) := rfl
    simp only [elements, run_bind, hp] at h
    cases h
    simp [Builder.pendingWeight]
  · intro b a b' h
    have hb := linkTarget_bounded c hint s b
    have hg : ∀ b, run graph b = (.ok b.registry, b) := fun _ => rfl
    simp only [elements, run_bind, hg] at h
    rcases hr : run (linkTarget c hint s) b with ⟨e | link, b₁⟩
    · simp [hr] at h
    · simp only [hr] at h hb
      cases h
      simp only [Builder.load, ElementSource.weight, List.length_range'] at hb ⊢
      omega

theorem linkNode_spends {c : Components} {id : ModelId} {b b' : Builder} {added : List ModelId}
    (h : run (linkNode c id) b = (.ok added, b')) :
    added.length + b'.pendingWeight ≤ b.pendingWeight := by
  have hg : ∀ b, run graph b = (.ok b.registry, b) := fun _ => rfl
  have ht : ∀ b, run (takeSource id) b = (.ok (b.source? id), b.dropSource id) := fun _ => rfl
  have hu : ∀ f b, run (update id f) b = (.ok (), { b with registry := b.registry.update id f }) :=
    fun _ _ => rfl
  simp only [linkNode, run_bind, hg] at h
  split at h
  · have hs : ((b.source? id).getD ⟨"value", none⟩).weight + (b.dropSource id).pendingWeight
        ≤ b.pendingWeight := by
      cases hsrc : b.source? id with
      | none =>
          have hle := Builder.dropSource_weight_le b id
          simp only [Option.getD_none, ElementSource.weight]
          omega
      | some source =>
          have hle := Builder.dropSource_weight hsrc
          simp only [Option.getD_some]
          omega
    simp only [run_bind, ht] at h
    rcases hr : run (elements c ((b.source? id).getD ⟨"value", none⟩)) (b.dropSource id)
      with ⟨e | ⟨link, added'⟩, b₁⟩
    · simp [hr] at h
    · have he := elements_spends c _ _ _ _ hr
      simp only [hr, hu] at h
      cases h
      simp only [Builder.pendingWeight] at he hs ⊢
      omega
  · cases h
    simp

/-! ## All nodes -/

/-- The next node to visit, with those that wait behind it: the first of the stack that is not
    visited, or else the first of all nodes not visited. -/
def next? (unvisited : List ModelId) : List ModelId → Option (ModelId × List ModelId)
  | [] => unvisited.head?.map (·, [])
  | id :: stack => if id ∈ unvisited then some (id, stack) else next? unvisited stack

theorem mem_of_next? {unvisited stack rest : List ModelId} {id : ModelId}
    (h : next? unvisited stack = some (id, rest)) : id ∈ unvisited := by
  induction stack with
  | nil =>
      cases unvisited with
      | nil => simp [next?] at h
      | cons first _ => simp_all [next?]
  | cons first stack ih =>
      rw [next?] at h
      split at h
      · simp_all
      · exact ih h

/-- Visits nodes until there is none left. The children of a visited node come before what waited on
    the stack. -/
def linkFrom (c : Components) (unvisited stack : List ModelId) (b : Builder) :
    Except BuildError Unit × Builder :=
  match _hn : next? unvisited stack with
  | none => (.ok (), b)
  | some (id, stack) =>
      match _hr : run (linkNode c id) b with
      | (.error e, b') => (.error e, b')
      | (.ok added, b') =>
          linkFrom c (unvisited.erase id ++ added) (b'.registry.children id ++ stack) b'
termination_by unvisited.length + b.pendingWeight
decreasing_by
  -- one node leaves the unvisited ones, and those added are paid for by the waiting elements
  have he := length_erase_lt_of_mem (mem_of_next? _hn)
  have hs := linkNode_spends _hr
  rw [List.length_append]
  omega

/-- Links every container of the graph to its elements. -/
def linkAll (c : Components) : Build Unit :=
  ExceptT.mk fun b => linkFrom c (List.range b.registry.nodes.size) [] b

end Build

end OpenApi
