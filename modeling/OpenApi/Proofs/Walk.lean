import OpenApi.Proofs.Linking

set_option autoImplicit false

/-! # The visits come to an end

Visiting a node may add nodes, which are to be visited in turn. A `Walk` is where the visits stand, and
`Visit` is one of them. Each visit makes `Walk.weight` smaller: one node leaves those to visit, and the
nodes that it adds come out of what the waiting elements can still add. A walk over a graph has
therefore no more visits than the graph has nodes and its waiting elements have weight, and `linkAll`
answers what stands at its end. -/

namespace OpenApi

namespace Build

variable {c : Components}

/-- Where the visits stand: the nodes not visited yet, those that are next, and the graph so far. -/
structure Walk where
  unvisited : List ModelId
  stack : List ModelId
  builder : Builder

namespace Walk

/-- Nothing is visited yet. -/
def start (b : Builder) : Walk := ⟨List.range b.registry.nodes.size, [], b⟩

/-- The nodes to visit, and what the waiting elements can still add to them. -/
noncomputable def weight (w : Walk) : Nat := w.unvisited.length + w.builder.pendingWeight

/-- One visit. Its children come before the nodes that are next. -/
inductive Visit (c : Components) : Walk → Walk → Prop
  | visit {unvisited stack rest added : List ModelId} {id : ModelId} {b b' : Builder} :
      next? unvisited stack = some (id, rest) → run (linkNode c id) b = (.ok added, b') →
      Visit c ⟨unvisited, stack, b⟩
        ⟨unvisited.erase id ++ added, b'.registry.children id ++ rest, b'⟩

/-- A number of visits in a row. -/
inductive Visits (c : Components) : Nat → Walk → Walk → Prop
  | none {w : Walk} : Visits c 0 w w
  | next {n : Nat} {w w₁ w' : Walk} : Visit c w w₁ → Visits c n w₁ w' → Visits c (n + 1) w w'

/-- The walk is over: no node is left, or the next visit fails. -/
inductive Ends (c : Components) : Walk → Except BuildError Unit × Builder → Prop
  | done {unvisited stack : List ModelId} {b : Builder} :
      next? unvisited stack = none → Ends c ⟨unvisited, stack, b⟩ (.ok (), b)
  | failed {unvisited stack rest : List ModelId} {id : ModelId} {b b' : Builder} {e : BuildError} :
      next? unvisited stack = some (id, rest) → run (linkNode c id) b = (.error e, b') →
      Ends c ⟨unvisited, stack, b⟩ (.error e, b')

theorem Visit.weight_lt {w w' : Walk} (h : Visit c w w') : w'.weight < w.weight := by
  cases h with
  | visit hnext hr =>
      -- one node leaves the list, and those that are added come out of the waiting weight
      have hlt := length_erase_lt_of_mem (mem_of_next? hnext)
      have hspent := linkNode_spends hr
      simp only [weight, List.length_append]
      omega

theorem Visits.weight_le {n : Nat} {w w' : Walk} (h : Visits c n w w') :
    n + w'.weight ≤ w.weight := by
  induction h with
  | none => omega
  | next hvisit _ ih =>
      have hlt := hvisit.weight_lt
      omega

/-- No walk over a graph has more visits than its load. -/
theorem Visits.le_load {n : Nat} {b : Builder} {w : Walk} (h : Visits c n (start b) w) :
    n ≤ b.load := by
  have hle := h.weight_le
  unfold weight start at hle
  rw [List.length_range] at hle
  exact Nat.le_trans (Nat.le_add_right n _) hle

end Walk

open Walk

/-- The visits go on to the end of the walk. -/
theorem linkFrom_ends (unvisited stack : List ModelId) (b : Builder) :
    ∃ n w, Visits c n ⟨unvisited, stack, b⟩ w ∧ w.Ends c (linkFrom c unvisited stack b) := by
  fun_induction linkFrom c unvisited stack b with
  | case1 unvisited stack b hnext => exact ⟨0, _, .none, .done hnext⟩
  | case2 unvisited stack b id rest hnext e b' hr => exact ⟨0, _, .none, .failed hnext hr⟩
  | case3 unvisited stack b id rest hnext added b' hr ih =>
      obtain ⟨n, w, hvisits, hends⟩ := ih
      exact ⟨n + 1, w, .next (.visit hnext hr) hvisits, hends⟩

/-- The answer of `linkAll` stands at the end of a walk that is no longer than the load. -/
theorem linkAll_ends (b : Builder) :
    ∃ n w, n ≤ b.load ∧ Visits c n (start b) w ∧ w.Ends c (run (linkAll c) b) := by
  obtain ⟨n, w, hvisits, hends⟩ := linkFrom_ends (c := c) (List.range b.registry.nodes.size) [] b
  exact ⟨n, w, hvisits.le_load, hvisits, hends⟩

end Build

end OpenApi
