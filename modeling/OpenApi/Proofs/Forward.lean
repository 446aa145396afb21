import OpenApi.Proofs.Elements

set_option autoImplicit false

/-! # Links lead forward

The elements of a container are built when the container is visited, so that their node is newer than
that of the container, unless a reference leads back to a node that has a name. `Registry.Forward` says so
of all links. It holds of every graph on the way (`Reachable.forward`), also when it is decorated
(`Decorates.forward`), and it is why every circle of containers has a named node on it. -/

namespace OpenApi

open Build

/-- Every link leads to a later node, or to one with a name. -/
def Registry.Forward (r : Registry) : Prop :=
  ∀ id l m, r.node? id = some m → m.link = some l → id < l ∨ ∃ n, r.lookup n = some l

namespace Builder

variable {c : Components} {b b₁ b' : Builder} {id l : ModelId}

theorem forward_of_addComponents (hc : (Entries.keys c.schemas).Nodup)
    (h : run (addComponents c) {} = (.ok (), b)) : b.registry.Forward := by
  intro id l m hm hl
  rw [link_of_addComponents hc h hm] at hl
  cases hl

/-- Nodes that are added have no links. -/
theorem forward_of_grows (hb : b.registry.Forward) (h : b.Grows (b.registry.nodes.size ≤ ·) b') :
    b'.registry.Forward := by
  intro id l m' hm' hl
  by_cases hid : id < b.registry.nodes.size
  · obtain ⟨m, hm⟩ := Registry.exists_node?_of_lt hid
    obtain ⟨m'', hm'', -, hlink⟩ := h.kept hm
    rw [hm'] at hm''
    cases hm''
    refine (hb id l m hm (hlink.symm.trans hl)).imp_right ?_
    rintro ⟨n, hn⟩
    exact ⟨n, h.lookup hn⟩
  · rw [h.link hm' (Nat.not_lt.1 hid)] at hl
    cases hl

theorem forward_linked (hb : b.registry.Forward)
    (hl : id < l ∨ ∃ n, b.registry.lookup n = some l) : (b.linked id l).registry.Forward := by
  intro i l' m' hm' hl'
  obtain ⟨m, link, hm, rfl, ⟨-, rfl⟩ | ⟨rfl, rfl⟩⟩ := node?_linked hm'
  · exact hb i l' m hm hl'
  · cases hl'
    exact hl

end Builder

namespace Build

open Builder View

variable {c : Components} {b b' : Builder} {id l : ModelId} {added : List ModelId}

/-- The node of elements is new, or has a name. -/
theorem elements_forward {source : ElementSource} (hb : b.Resolved c)
    (h : run (elements c source) b = (.ok (l, added), b')) :
    b.registry.nodes.size ≤ l ∨ ∃ n, b'.registry.lookup n = some l := by
  rcases run_elements_ok h with ⟨-, rfl, -, -⟩ | ⟨s, -, hrun, -⟩
  · exact .inl (Nat.le_refl _)
  · cases s with
    | ref path nullable =>
        obtain ⟨-, helem, -⟩ := linkTarget_ok hb hrun
        cases helem with
        | reference _ hname => exact .inr ⟨_, hname⟩
    | inline t => exact .inl (linkTarget_inline_ok hb.ready hrun).1

/-- The visit of a container links it forward. -/
theorem linkNode_forward (hb : b.Linkable c) (hforward : b.registry.Forward)
    (h : run (linkNode c id) b = (.ok added, b')) : b'.registry.Forward := by
  by_cases hid : b.Unlinked id
  · obtain ⟨l, b₁, hr, rfl⟩ := run_linkNode_ok hid h
    obtain ⟨m, hm, -, -⟩ := hid
    have hres := hb.complete.resolved.dropSource id
    have hgrows := Steps.grows (elements_ok hres hr).1 hres.ready.sound
    refine forward_linked (forward_of_grows (b := b.dropSource id) hforward hgrows) ?_
    refine (elements_forward hres hr).imp_left fun hge => ?_
    exact Nat.lt_of_lt_of_le (Registry.node?_eq_some_lt hm) hge
  · rw [run_linkNode_of_not_unlinked hid] at h
    cases h
    exact hforward

theorem linkFrom_forward {unvisited stack : List ModelId} (hb : b.Linkable c)
    (hforward : b.registry.Forward) (h : linkFrom c unvisited stack b = (.ok (), b')) :
    b'.registry.Forward :=
  linkFrom_keeps (P := (·.registry.Forward)) linkNode_forward hb hforward h

end Build

/-- In every graph on the way the links lead forward. -/
theorem Builder.Reachable.forward {c : Components} {b : Builder}
    (hc : (Entries.keys c.schemas).Nodup) (hb : b.Reachable c) : b.registry.Forward := by
  refine (hb.invariant hc (fun b h => forward_of_addComponents hc h) ?_ ?_).2
  · intro b b' hlinkable hforward h
    exact forward_of_grows hforward (Steps.grows h hlinkable.complete.ready.sound)
  · intro b b' hlinkable hforward h
    exact linkFrom_forward hlinkable hforward h

/-- Decoration leaves links and names alone. -/
theorem Registry.Decorates.forward {r r' : Registry} (h : r.Decorates r') (hr : r.Forward) :
    r'.Forward := by
  intro id l m' hm' hl
  obtain ⟨m, hm, hd⟩ := h.node_back hm'
  rw [h.lookup]
  exact hr id l m hm (hd.link.symm.trans hl)

end OpenApi
