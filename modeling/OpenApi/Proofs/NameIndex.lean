import OpenApi.Proofs.Reachable

set_option autoImplicit false

/-! # The index of names

Models are registered under their names in the order in which these are taken: the components first, all
of them before any is filled, and then every schema that is promoted, under the first free name that its
hint leads to. `Builder.ExactIndex` says that the index answers for every name with the node that
bears it, and that it begins as the components were declared. It holds of every graph on the
way: `reachable_exactIndex`. -/

namespace OpenApi

open Build

/-- The index of names once the components are declared on an empty graph. -/
def Components.declaredIndex (c : Components) : Entries ModelId := (Entries.keys c.schemas).zipIdx

namespace Builder

variable {c : Components} {b b' : Builder}

/-- The index of names is exact. -/
structure ExactIndex (c : Components) (b : Builder) : Prop where
  /-- Each entry leads to a node of its name. -/
  entries : ∀ n id, (n, id) ∈ b.registry.named → ∃ m, b.registry.node? id = some m ∧ m.name = n
  /-- No name has two entries. -/
  names : (Entries.keys b.registry.named).Nodup
  /-- No node is registered twice. -/
  ids : (b.registry.named.map Prod.snd).Nodup
  /-- The names that are taken are those with an entry. -/
  used : ∀ n, n ∈ b.usedNames ↔ n ∈ Entries.keys b.registry.named
  /-- The components stand first, as they were declared. -/
  components : c.declaredIndex <+: b.registry.named

/-- Each entry of a sound index is what its name is looked up as. -/
theorem Sound.lookup_of_mem (hb : b.Sound c) {n : String} {id : ModelId}
    (h : (n, id) ∈ b.registry.named) : b.registry.lookup n = some id :=
  Entries.get?_of_mem hb.distinct h

/-- Nodes with one name each are registered once. -/
theorem Sound.nodup_ids (hb : b.Sound c) : (b.registry.named.map Prod.snd).Nodup := by
  refine List.Nodup.map_on ?_ (List.Nodup.of_map _ hb.distinct)
  rintro ⟨n, id⟩ hn ⟨n', id'⟩ hn' heq
  obtain rfl : id = id' := heq
  rw [hb.lookup_inj (hb.lookup_of_mem hn) (hb.lookup_of_mem hn')]

/-! ## The components -/

/-- Names are registered behind those of the components, from their declaration on. -/
theorem declaredIndex_addComponents (hc : (Entries.keys c.schemas).Nodup)
    (h : run (addComponents c) {} = (.ok (), b)) : c.declaredIndex <+: b.registry.named := by
  obtain ⟨_, b₁, h₁, h₂⟩ := run_bind_ok h
  obtain ⟨b', h', hnamed⟩ := declareAll_named c.schemas {} hc fun _ _ => List.not_mem_nil
  cases h'.symm.trans h₁
  obtain ⟨-, hready, hvacant⟩ := declareAll_components hc h₁
  obtain ⟨hfill, -⟩ := fillComponents_ok hready hc (fun _ he => he) hvacant h₂
  have hgrows := (Steps.grows hfill hready.sound).named
  rw [hnamed] at hgrows
  exact hgrows

/-- Whatever is done to a graph, the components stay registered as they were declared. -/
theorem Reachable.declaredIndex (hc : (Entries.keys c.schemas).Nodup) (hb : b.Reachable c) :
    c.declaredIndex <+: b.registry.named := by
  refine (hb.invariant hc (fun b h => declaredIndex_addComponents hc h) ?_ ?_).2
  · intro b b' hlinkable hb h
    exact hb.trans (Steps.grows h hlinkable.complete.ready.sound).named
  · intro b b' hlinkable hb h
    obtain ⟨-, -, hlinks, -⟩ := hlinkable.linkAll h
    exact hb.trans hlinks.named

/-! ## Every graph -/

/-- Declaring the components registers each under the next id. In every graph that is reached
    from there the index of names is exact, and each component is found as it was declared, whatever has
    been promoted since and under whatever hints. -/
theorem reachable_exactIndex (hc : (Entries.keys c.schemas).Nodup) :
    (∃ b, run (c.schemas.forM fun entry => discard (declare entry.1)) {} = (.ok (), b) ∧
      b.registry.named = c.declaredIndex) ∧
    ∀ b : Builder, b.Reachable c → b.ExactIndex c ∧
      ∀ n id, (n, id) ∈ c.declaredIndex → b.registry.lookup n = some id := by
  refine ⟨declareAll_named c.schemas {} hc fun _ _ => List.not_mem_nil, fun b hb => ?_⟩
  have hsound := (hb.linkable hc).complete.ready.sound
  have hfront := hb.declaredIndex hc
  refine ⟨⟨fun n id h => hsound.index (hsound.lookup_of_mem h), hsound.distinct, hsound.nodup_ids,
    hsound.used, hfront⟩, fun n id h => ?_⟩
  exact hsound.lookup_of_mem (hfront.subset h)

end Builder

/-- A component whose property is promoted under a name that another component has. -/
def ownerComponents : Components where
  schemas :=
    [("Pet", .inline
        { type := some (.single .object)
          properties :=
            [("owner", .inline
                { type := some (.single .object)
                  additional := some (.allowed false) })] }),
      ("PetOwner", .inline
        { type := some (.single .object)
          additional := some (.allowed false) })]

/-- One more schema is promoted under a hint that leads to the same name. -/
theorem Builder.reachable_exactIndex_owners : ∃ b : Builder, b.Reachable ownerComponents ∧
    Entries.keys b.registry.named = ["Pet", "PetOwner", "PetOwner2", "PetOwner3"] ∧
    b.ExactIndex ownerComponents ∧ b.registry.lookup "PetOwner" = some 1 := by
  let added := (run (addComponents ownerComponents) {}).2
  let promoting := occurrence ownerComponents "owner" "petOwner"
    (.inline { type := some (.single .object), additional := some (.allowed false) })
  have hadd : run (addComponents ownerComponents) {} = (.ok (), added) :=
    exists_run_ok (by decide +kernel)
  obtain ⟨id, hpromote⟩ := exists_run_eq (m := promoting) (b := added) (by decide +kernel)
  have hreachable : (run promoting added).2.Reachable ownerComponents :=
    .occurrence (.components hadd) hpromote
  obtain ⟨hexact, hfound⟩ := (reachable_exactIndex (by decide)).2 _ hreachable
  exact ⟨_, hreachable, by decide +kernel, hexact, hfound "PetOwner" 1 (by decide)⟩

end OpenApi
