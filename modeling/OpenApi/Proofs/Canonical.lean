import OpenApi.Proofs.Components

set_option autoImplicit false

/-! # Where references end

Once all components are added, the references from any node come to an end, and they end where the
references of the document do: `Resolved.canonical_target` compares the node that the graph calls
canonical with the name that the document calls so. `Builder.Resolved` is what this rests on. -/

namespace OpenApi

namespace Registry

variable {r : Registry} {id : ModelId}

/-- The references end here: the node is no reference, or a named object. -/
def Settled (r : Registry) (id : ModelId) : Prop :=
  ∃ m, r.node? id = some m ∧ (m.kind = .reference → r.lookup m.baseType = some id)

/-- What is no reference is its own end. -/
theorem settled_of_ne_reference {m : Model} (hm : r.node? id = some m) (hk : m.kind ≠ .reference) :
    r.Settled id :=
  ⟨m, hm, fun h => absurd h hk⟩

/-- A scalar is its own end. -/
theorem settled_of_isScalar {m : Model} (hm : r.node? id = some m) (hs : m.kind.isScalar = true) :
    r.Settled id :=
  settled_of_ne_reference hm fun hk => by simp [hk, ModelKind.isScalar] at hs

theorem Settled.next?_eq_none (h : r.Settled id) : r.next? id = none := by
  obtain ⟨m, hm, hk⟩ := h
  exact Registry.next?_eq_none hm hk

theorem Settled.canonical (h : r.Settled id) : r.canonical id = id :=
  canonical_of_next?_eq_none h.next?_eq_none

theorem Settled.leads (h : r.Settled id) : Leads r.next? id 0 id := .here h.next?_eq_none

/-- A settled reference defines an object. -/
theorem Settled.isObject (h : r.Settled id)
    (hindex : ∀ {n : String}, r.lookup n = some id → ∃ m, r.node? id = some m ∧ m.name = n) :
    ∃ m, r.node? id = some m ∧ (m.kind = .reference → r.isObject id) := by
  obtain ⟨m, hm, hk⟩ := h
  refine ⟨m, hm, fun href => ?_⟩
  have hl := hk href
  obtain ⟨m', hm', hname⟩ := hindex hl
  rw [hm] at hm'
  cases hm'
  unfold Registry.isObject Registry.isNamed Registry.holds
  simp [hm, href, hname, hl]

end Registry

/-- A node that defines a schema is settled. -/
theorem View.Defines.settled {c : Components} {v : View} {r : Registry} {s : Schema} {id : ModelId}
    {m : Model} (h : View.Defines c v s id m) (hm : r.node? id = some m)
    (hnamed : ∀ {n : String} {i : ModelId}, v.named n i → r.lookup n = some i) : r.Settled id := by
  refine ⟨m, hm, fun hk => ?_⟩
  cases h with
  | object _ _ hbase hname => exact hbase ▸ hnamed hname
  | composite _ hk' => rw [hk] at hk'; cases hk'
  | literal _ hk' => rw [hk] at hk'; cases hk'
  | array _ hk' => rw [hk] at hk'; cases hk'
  | dictionary _ hk' => rw [hk] at hk'; cases hk'
  | primitive _ hk' => rw [hk] at hk'; cases hk'

namespace Builder

variable {c : Components} {b b' : Builder}

/-- The models of components refer to each other as the components do, and their chains end. -/
structure Resolved (c : Components) (b : Builder) : Prop where
  ready : b.Ready c
  aliases : ∀ {n path : String} {nullable : Option Bool}, (n, .ref path nullable) ∈ c.schemas →
    ∃ id m, b.registry.lookup n = some id ∧ b.registry.node? id = some m ∧ m.kind = .reference ∧
      c.targetName path = .ok m.baseType
  definitions : ∀ {n : String} {s : Schema}, (n, .inline s) ∈ c.schemas →
    ∃ id, b.registry.lookup n = some id ∧ b.registry.Settled id
  chains : ∀ {n path : String} {nullable : Option Bool}, (n, .ref path nullable) ∈ c.schemas →
    ∃ e k, c.LeadsTo e k path

theorem Complete.resolved (hb : b.Complete c) : b.Resolved c where
  ready := hb.ready
  aliases hmem := by
    cases hb.components hmem with
    | reference hname hnode htarget hk hbase _ =>
        exact ⟨_, _, hname, hnode.2, hk, hbase ▸ htarget⟩
  definitions hmem := by
    cases hb.components hmem with
    | definition hname hnode _ hdef => exact ⟨_, hname, hdef.settled hnode.2 fun hn => hn⟩
  chains := hb.chains

/-- Every path with a target leads to a definition. -/
theorem Resolved.leadsTo (hb : b.Resolved c) {path target : String}
    (h : c.targetName path = .ok target) : ∃ e k, c.LeadsTo e k path := by
  obtain ⟨s, hs⟩ := Components.targetName_eq_ok_iff.1 h
  cases s with
  | inline s => exact ⟨target, 0, .here hs⟩
  | ref next nullable =>
      obtain ⟨e, k, hk⟩ := hb.chains (Entries.mem_of_get? (Components.target_eq_ok_iff.1 hs).2)
      exact ⟨e, k + 1, .through hs hk⟩

/-- The nodes follow the chain of a path. -/
theorem Resolved.leads_of_leadsTo (hb : b.Resolved c) {e path : String} {k : Nat}
    (h : c.LeadsTo e k path) {target : String} {t : ModelId} (htarget : c.targetName path = .ok target)
    (ht : b.registry.lookup target = some t) :
    ∃ te j, b.registry.lookup e = some te ∧ Leads b.registry.next? te j t ∧
      b.registry.Settled te := by
  obtain ⟨s, hs⟩ := Components.targetName_eq_ok_iff.1 htarget
  induction h generalizing target t s with
  | here hs' =>
      rw [hs] at hs'
      cases hs'
      obtain ⟨te, hte, hsettled⟩ :=
        hb.definitions (Entries.mem_of_get? (Components.target_eq_ok_iff.1 hs).2)
      rw [hte] at ht
      cases ht
      exact ⟨t, 0, hte, hsettled.leads, hsettled⟩
  | @through k path name next nullable hs' hrest ih =>
      have htarget' := hs
      rw [hs] at hs'
      cases hs'
      obtain ⟨id, m, hname, hm, hk, hnext⟩ :=
        hb.aliases (Entries.mem_of_get? (Components.target_eq_ok_iff.1 hs).2)
      rw [hname] at ht
      cases ht
      obtain ⟨t', ht'⟩ := hb.ready.lookup_target hnext
      obtain ⟨s', hs'⟩ := Components.targetName_eq_ok_iff.1 hnext
      obtain ⟨te, j, hte, hj, hsettled⟩ := ih hnext ht' s' hs'
      refine ⟨te, j + 1, hte, .step ?_ hj, hsettled⟩
      refine Registry.next?_eq_some_iff.2 ⟨m, hm, hk, ht', ?_⟩
      rintro rfl
      -- a component that points at itself would have a chain of two lengths
      have heq := hb.ready.sound.lookup_inj ht' hname
      have hsame : c.target next = c.target path := by
        rw [hs', hs, heq]
        have hget := (Components.target_eq_ok_iff.1 hs').2
        rw [heq, (Components.target_eq_ok_iff.1 hs).2] at hget
        rw [Option.some.inj hget]
      exact Nat.ne_of_lt (Nat.lt_succ_self k)
        (hrest.unique ((Components.LeadsTo.through hs hrest).congr hsame)).1

/-- The references from any node end. -/
theorem Resolved.leads (hb : b.Resolved c) {id : ModelId} {m : Model}
    (hm : b.registry.node? id = some m) :
    ∃ e k, Leads b.registry.next? e k id ∧ b.registry.Settled e := by
  by_cases hk : m.kind = .reference
  · -- a reference is an object, or leads to an object or to the alias of a component
    obtain ⟨t, ht⟩ := hb.ready.sound.targets hm hk
    by_cases hid : t = id
    · subst hid
      exact ⟨t, 0, Registry.Settled.leads ⟨m, hm, fun _ => ht⟩, m, hm, fun _ => ht⟩
    · have hstep : b.registry.next? id = some t :=
        Registry.next?_eq_some_iff.2 ⟨m, hm, hk, ht, hid⟩
      obtain ⟨mt, hmt, -⟩ := hb.ready.sound.index ht
      by_cases hkt : mt.kind = .reference
      · rcases hb.ready.sound.models ht hmt hkt with hbase | ⟨path, nullable, hmem, htarget⟩
        · have hsettled : b.registry.Settled t := ⟨mt, hmt, fun _ => hbase ▸ ht⟩
          exact ⟨t, 1, .step hstep hsettled.leads, hsettled⟩
        · obtain ⟨e, k, hchain⟩ := hb.chains hmem
          obtain ⟨t', ht'⟩ := hb.ready.lookup_target htarget
          obtain ⟨te, j, -, hj, hsettled⟩ := hb.leads_of_leadsTo hchain htarget ht'
          by_cases ht'' : t' = t
          · subst ht''
            exact ⟨te, j + 1, .step hstep hj, hsettled⟩
          · have hstep' : b.registry.next? t = some t' :=
              Registry.next?_eq_some_iff.2 ⟨mt, hmt, hkt, ht', ht''⟩
            exact ⟨te, j + 2, .step hstep (.step hstep' hj), hsettled⟩
      · have hsettled := Registry.settled_of_ne_reference hmt hkt
        exact ⟨t, 1, .step hstep hsettled.leads, hsettled⟩
  · have hsettled := Registry.settled_of_ne_reference hm hk
    exact ⟨id, 0, hsettled.leads, hsettled⟩

/-- What a node is said to be is settled. -/
theorem Resolved.settled_canonical (hb : b.Resolved c) {id : ModelId} {m : Model}
    (hm : b.registry.node? id = some m) : b.registry.Settled (b.registry.canonical id) := by
  obtain ⟨e, k, hleads, hsettled⟩ := hb.leads hm
  rw [Registry.canonical_of_leads hb.ready.sound.lookup_lt hleads]
  exact hsettled

/-- A reference is at its end what its target is. -/
theorem Resolved.canonical_reference (hb : b.Resolved c) {id t : ModelId} {m : Model}
    (hm : b.registry.node? id = some m) (hk : m.kind = .reference)
    (ht : b.registry.lookup m.baseType = some t) :
    b.registry.canonical id = b.registry.canonical t := by
  by_cases hid : t = id
  · rw [hid]
  · obtain ⟨mt, hmt, -⟩ := hb.ready.sound.index ht
    obtain ⟨e, k, hleads, -⟩ := hb.leads hmt
    have hstep : b.registry.next? id = some t := Registry.next?_eq_some_iff.2 ⟨m, hm, hk, ht, hid⟩
    rw [Registry.canonical_of_leads hb.ready.sound.lookup_lt (.step hstep hleads),
      Registry.canonical_of_leads hb.ready.sound.lookup_lt hleads]

/-- The canonical node of the target of a path is registered under the canonical name of the path. -/
theorem Resolved.canonical_target (hb : b.Resolved c) {path target : String} {t : ModelId}
    (htarget : c.targetName path = .ok target) (ht : b.registry.lookup target = some t) :
    ∃ e, c.canonicalName path = .ok e ∧ b.registry.lookup e = some (b.registry.canonical t) := by
  obtain ⟨e, k, hchain⟩ := hb.leadsTo htarget
  obtain ⟨te, j, hte, hj, -⟩ := hb.leads_of_leadsTo hchain htarget ht
  rw [Registry.canonical_of_leads hb.ready.sound.lookup_lt hj]
  exact ⟨e, Components.canonicalName_eq_ok_iff.2 ⟨k, hchain⟩, hte⟩

end Builder

end OpenApi
