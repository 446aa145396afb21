import Mathlib.Data.List.Nodup
import Mathlib.Logic.Relation
import OpenApi.Proofs.Run

set_option autoImplicit false

/-! # Elementary changes of a graph under construction

`Builder.Step` says once what the construction of schemas can do to a builder, with the guards under
which it does it; `Builder.Steps` is any number of such changes. `Builder.Sound` is the invariant of the
index of names, of references and of waiting elements, and `Steps.sound` says that it is kept. -/

namespace OpenApi

/-- Whether a node of the kind has a name of a model as its base type. -/
def ModelKind.isNominal : ModelKind → Bool
  | .reference | .composite _ => true
  | _ => false

/-- A node without parts, as nodes are when they are added. -/
structure Model.Blank (m : Model) : Prop where
  properties : m.properties = []
  link : m.link = none
  composedModels : m.composedModels = []
  composedPrimitives : m.composedPrimitives = []

theorem Model.any_blank (name : String) : (Model.any name).Blank := ⟨rfl, rfl, rfl, rfl⟩

/-- The component of the name is a reference that points at `target` directly. -/
def Components.IsAlias (c : Components) (name target : String) : Prop :=
  ∃ path nullable, (name, .ref path nullable) ∈ c.schemas ∧ c.targetName path = .ok target

namespace Builder

/-! ## Changes -/

/-- What a change may do to a node: it keeps the name and the link, and adds only properties that are
    there. The kind may change as long as no elements wait, and to a kind with the name of a model
    only if the node is registered under that name, or is the alias of a component. -/
structure Revision (c : Components) (b : Builder) (id : ModelId) (old new : Model) : Prop where
  name : new.name = old.name
  link : new.link = old.link
  composedModels : new.composedModels = old.composedModels
  composedPrimitives : new.composedPrimitives = old.composedPrimitives
  properties : ∀ p ∈ new.properties, p ∈ old.properties ∨ p < b.registry.nodes.size
  kind : new.kind = old.kind ∧ new.baseType = old.baseType ∨
    b.source? id = none ∧ ((new.kind.isNominal → b.registry.lookup new.baseType = some id) ∨
      new.kind = .reference ∧ (∃ t, b.registry.lookup new.baseType = some t) ∧
        ∃ n, b.registry.lookup n = some id ∧ c.IsAlias n new.baseType)

/-- One elementary change. Only the nodes in `free` may be changed, or have elements that wait. -/
inductive Step (c : Components) (free : ModelId → Prop) (b : Builder) : Builder → Prop
  | note (e : Event) : Step c free b (b.noted e)
  | push {m : Model} : m.Blank →
      (m.kind = .primitive ∨ m.kind = .reference ∧ ∃ t, b.registry.lookup m.baseType = some t) →
      Step c free b (b.pushed m)
  | declare {name : String} : name ∉ b.usedNames → Step c free b (b.declared name)
  | update {id : ModelId} {f : Model → Model} : free id →
      (∀ m, b.registry.node? id = some m → b.Revision c id m (f m)) → Step c free b (b.updated id f)
  | await {id : ModelId} {source : ElementSource} {m : Model} : free id → b.source? id = none →
      b.registry.node? id = some m → m.kind.isContainer → m.link = none →
      Step c free b (b.awaiting id source)

/-- Any number of elementary changes. -/
abbrev Steps (c : Components) (free : ModelId → Prop) : Builder → Builder → Prop :=
  Relation.ReflTransGen (Step c free)

/-- More nodes may be free. -/
theorem Steps.mono {c : Components} {free free' : ModelId → Prop} {b b' : Builder}
    (h : Steps c free b b') (hf : ∀ i, free i → free' i) : Steps c free' b b' := by
  refine Relation.ReflTransGen.mono ?_ _ _ h
  intro b₁ b₂ hstep
  cases hstep with
  | note e => exact .note e
  | push hblank hkind => exact .push hblank hkind
  | declare hfree => exact .declare hfree
  | update hid hrev => exact .update (hf _ hid) hrev
  | await hid hnone hm hk hl => exact .await (hf _ hid) hnone hm hk hl

/-- A node after a push is an old one or the new one. -/
theorem node?_pushed {b : Builder} {m n : Model} {i : ModelId}
    (h : (b.pushed m).registry.node? i = some n) :
    b.registry.node? i = some n ∨ i = b.registry.nodes.size ∧ n = m := by
  rw [Builder.pushed, Registry.node?_push] at h
  split at h
  · next hi => exact .inr ⟨hi, (Option.some.inj h).symm⟩
  · exact .inl h

/-! ## The invariant -/

/-- A node after an update is one that was left as it was, or the new content of the one that was
    updated. -/
theorem node?_updated {b : Builder} {f : Model → Model} {n : Model} {id i : ModelId}
    (h : (b.updated id f).registry.node? i = some n) :
    b.registry.node? i = some n ∧ i ≠ id ∨ i = id ∧ ∃ m, b.registry.node? id = some m ∧ n = f m := by
  rw [Builder.updated, Registry.node?_update] at h
  split at h
  · next hi =>
      subst hi
      obtain ⟨m, hm, hn⟩ := Option.map_eq_some_iff.1 h
      exact .inr ⟨rfl, m, hm, hn.symm⟩
  · next hi => exact .inl ⟨h, fun he => hi he.symm⟩

/-- A revision leaves every node with its name and link, and no container stops being one while its
    elements wait. -/
theorem node?_revised {c : Components} {b : Builder} {f : Model → Model} {m : Model} {id i : ModelId}
    (hf : ∀ m, b.registry.node? id = some m → b.Revision c id m (f m))
    (h : b.registry.node? i = some m) :
    ∃ n, (b.updated id f).registry.node? i = some n ∧ n.name = m.name ∧ n.link = m.link ∧
      (n.kind = m.kind ∨ b.source? i = none) := by
  by_cases hi : i = id
  · subst hi
    refine ⟨f m, Registry.node?_update_self h, (hf m h).name, (hf m h).link, ?_⟩
    exact (hf m h).kind.imp And.left And.left
  · exact ⟨m, by rw [Builder.updated, Registry.node?_update_of_ne hi, h], rfl, rfl, .inl rfl⟩

/-- What holds of every builder on the way: names are registered for the nodes that bear them,
    references have targets, a named reference is an object or an alias of a component, composites are
    named, properties are nodes, nothing is composed yet, and elements wait only for containers
    without a link. -/
structure Sound (c : Components) (b : Builder) : Prop where
  index : ∀ {n : String} {id : ModelId}, b.registry.lookup n = some id →
    ∃ m, b.registry.node? id = some m ∧ m.name = n
  distinct : (Entries.keys b.registry.named).Nodup
  used : ∀ n, n ∈ b.usedNames ↔ n ∈ Entries.keys b.registry.named
  targets : ∀ {id : ModelId} {m : Model}, b.registry.node? id = some m → m.kind = .reference →
    ∃ t, b.registry.lookup m.baseType = some t
  models : ∀ {n : String} {id : ModelId} {m : Model}, b.registry.lookup n = some id →
    b.registry.node? id = some m → m.kind = .reference → m.baseType = n ∨ c.IsAlias n m.baseType
  composites : ∀ {id : ModelId} {m : Model}, b.registry.node? id = some m → m.kind.isComposite →
    m.baseType = m.name ∧ b.registry.lookup m.name = some id
  properties : ∀ {id p : ModelId} {m : Model}, b.registry.node? id = some m → p ∈ m.properties →
    p < b.registry.nodes.size
  composed : ∀ {id : ModelId} {m : Model}, b.registry.node? id = some m →
    m.composedModels = [] ∧ m.composedPrimitives = []
  sources : ∀ {id : ModelId} {source : ElementSource}, b.source? id = some source →
    ∃ m, b.registry.node? id = some m ∧ m.kind.isContainer ∧ m.link = none

/-- The builder at the start is sound. -/
theorem Sound.empty (c : Components) : Sound c {} where
  index h := by cases h
  distinct := List.nodup_nil
  used _ := Iff.rfl
  targets h := by cases h
  models h := by cases h
  composites h := by cases h
  properties h := by cases h
  composed h := by cases h
  sources h := by cases h

namespace Sound

variable {c : Components} {b : Builder}

/-- A name under which nothing is registered is free. -/
theorem not_mem_used_iff (hb : b.Sound c) {n : String} :
    n ∉ b.usedNames ↔ b.registry.lookup n = none := by
  rw [hb.used, Registry.lookup, Entries.get?_eq_none_iff]

theorem lookup_lt (hb : b.Sound c) {n : String} {id : ModelId}
    (h : b.registry.lookup n = some id) : id < b.registry.nodes.size := by
  obtain ⟨m, hm, -⟩ := hb.index h
  exact Registry.node?_eq_some_lt hm

theorem source_lt (hb : b.Sound c) {id : ModelId} {source : ElementSource}
    (h : b.source? id = some source) : id < b.registry.nodes.size := by
  obtain ⟨m, hm, -⟩ := hb.sources h
  exact Registry.node?_eq_some_lt hm

/-- Nothing waits for a node that is not there yet. -/
theorem source?_size (hb : b.Sound c) : b.source? b.registry.nodes.size = none := by
  cases h : b.source? b.registry.nodes.size with
  | none => rfl
  | some source => exact absurd (hb.source_lt h) (Nat.lt_irrefl _)

/-- Distinct names are registered for distinct nodes. -/
theorem lookup_inj (hb : b.Sound c) {n n' : String} {id : ModelId}
    (h : b.registry.lookup n = some id) (h' : b.registry.lookup n' = some id) : n = n' := by
  obtain ⟨m, hm, hn⟩ := hb.index h
  obtain ⟨m', hm', hn'⟩ := hb.index h'
  rw [hm] at hm'
  cases hm'
  exact hn.symm.trans hn'

/-! ## One lemma for each elementary change -/

theorem noted (hb : b.Sound c) (e : Event) : (b.noted e).Sound c :=
  ⟨hb.index, hb.distinct, hb.used, hb.targets, hb.models, hb.composites, hb.properties, hb.composed,
    hb.sources⟩

theorem pushed (hb : b.Sound c) {m : Model} (hblank : m.Blank)
    (hkind : m.kind = .primitive ∨ m.kind = .reference ∧ ∃ t, b.registry.lookup m.baseType = some t) :
    (b.pushed m).Sound c where
  index h := by
    obtain ⟨m', hm', hn⟩ := hb.index h
    exact ⟨m', Registry.node?_push_of_some hm', hn⟩
  distinct := hb.distinct
  used := hb.used
  targets h hk := by
    rcases node?_pushed h with h | ⟨-, rfl⟩
    · exact hb.targets h hk
    · rcases hkind with hp | ⟨-, ht⟩
      · rw [hp] at hk
        cases hk
      · exact ht
  models hl h hk := by
    rcases node?_pushed h with h | ⟨rfl, -⟩
    · exact hb.models hl h hk
    · -- no name is registered for a node that has just been added
      exact absurd (hb.lookup_lt hl) (Nat.lt_irrefl _)
  composites h hk := by
    rcases node?_pushed h with h | ⟨-, rfl⟩
    · exact hb.composites h hk
    · rcases hkind with hp | ⟨hr, -⟩
      · rw [hp] at hk
        cases hk
      · rw [hr] at hk
        cases hk
  properties h hp := by
    rw [size_pushed]
    rcases node?_pushed h with h | ⟨-, rfl⟩
    · exact Nat.lt_succ_of_lt (hb.properties h hp)
    · rw [hblank.properties] at hp
      cases hp
  composed h := by
    rcases node?_pushed h with h | ⟨-, rfl⟩
    · exact hb.composed h
    · exact ⟨hblank.composedModels, hblank.composedPrimitives⟩
  sources h := by
    obtain ⟨n, hn, hk⟩ := hb.sources h
    exact ⟨n, Registry.node?_push_of_some hn, hk⟩

/-- A name that is declared is registered at the end. -/
theorem keys_declared (hb : b.Sound c) {name : String} (hfree : name ∉ b.usedNames) :
    Entries.keys (b.declared name).registry.named = Entries.keys b.registry.named ++ [name] := by
  show Entries.keys (Entries.put name _ b.registry.named) = _
  rw [Entries.keys_put, if_neg (Entries.get?_eq_none_iff.1 (hb.not_mem_used_iff.1 hfree))]

/-- What is registered after a declaration is the new node or was registered before. -/
theorem lookup_declared {name n : String} {id : ModelId}
    (h : (b.declared name).registry.lookup n = some id) :
    n = name ∧ id = b.registry.nodes.size ∨ b.registry.lookup n = some id := by
  by_cases hn : n = name
  · subst hn
    rw [show (b.declared n).registry.lookup n = some b.registry.nodes.size from
      Registry.lookup_register_self _ _ _] at h
    cases h
    exact .inl ⟨rfl, rfl⟩
  · rw [show (b.declared name).registry.lookup n = b.registry.lookup n from
      Registry.lookup_register_of_ne hn _] at h
    exact .inr h

/-- What was registered stays so. -/
theorem lookup_declared_of_some (hb : b.Sound c) {name n : String} (hfree : name ∉ b.usedNames)
    {id : ModelId} (h : b.registry.lookup n = some id) :
    (b.declared name).registry.lookup n = some id := by
  have hn : n ≠ name := by
    rintro rfl
    rw [hb.not_mem_used_iff.1 hfree] at h
    cases h
  rw [show (b.declared name).registry.lookup n = b.registry.lookup n from
    Registry.lookup_register_of_ne hn _, h]

theorem pushed_any (hb : b.Sound c) (name : String) : (b.pushed (Model.any name)).Sound c :=
  hb.pushed (Model.any_blank name) (.inl rfl)

theorem declared (hb : b.Sound c) {name : String} (hfree : name ∉ b.usedNames) :
    (b.declared name).Sound c where
  index h := by
    rcases lookup_declared h with ⟨rfl, rfl⟩ | h
    · exact ⟨_, Registry.node?_push_self _ _, rfl⟩
    · exact (hb.pushed_any name).index h
  distinct := by
    rw [hb.keys_declared hfree, List.nodup_append]
    refine ⟨hb.distinct, List.nodup_singleton name, ?_⟩
    intro n hn n' hn' he
    rw [List.mem_singleton] at hn'
    exact hfree ((hb.used name).2 (hn' ▸ he ▸ hn))
  used n := by
    rw [hb.keys_declared hfree, List.mem_append, List.mem_singleton, ← hb.used n]
    show n ∈ b.usedNames.insert name ↔ _
    rw [List.mem_insert_iff, or_comm]
  targets h hk := by
    obtain ⟨t, ht⟩ := (hb.pushed_any name).targets h hk
    exact ⟨t, hb.lookup_declared_of_some hfree ht⟩
  models {n _ _} hl h hk := by
    rcases lookup_declared hl with ⟨rfl, rfl⟩ | hl
    · -- the new node is no reference yet
      rw [show (b.declared n).registry.node? b.registry.nodes.size = some (Model.any n) from
        Registry.node?_push_self _ _] at h
      cases h
      cases hk
    · exact (hb.pushed_any name).models hl h hk
  composites h hk := by
    obtain ⟨hbase, hl⟩ := (hb.pushed_any name).composites h hk
    exact ⟨hbase, hb.lookup_declared_of_some hfree hl⟩
  properties := (hb.pushed_any name).properties
  composed := (hb.pushed_any name).composed
  sources := (hb.pushed_any name).sources

theorem updated (hb : b.Sound c) {id : ModelId} {f : Model → Model}
    (hf : ∀ m, b.registry.node? id = some m → b.Revision c id m (f m)) :
    (b.updated id f).Sound c where
  index h := by
    obtain ⟨m, hm, hn⟩ := hb.index h
    obtain ⟨m', hm', hname, -⟩ := node?_revised hf hm
    exact ⟨m', hm', hname.trans hn⟩
  distinct := hb.distinct
  used := hb.used
  targets {i _} h hk := by
    rcases node?_updated h with ⟨h, -⟩ | ⟨rfl, m, hm, rfl⟩
    · exact hb.targets h hk
    · rcases (hf m hm).kind with ⟨hkind, hbase⟩ | ⟨-, hnominal | ⟨-, ht, -⟩⟩
      · rw [hbase]
        exact hb.targets hm (hkind ▸ hk)
      · exact ⟨i, hnominal (by rw [hk]; rfl)⟩
      · exact ht
  models hl h hk := by
    rcases node?_updated h with ⟨h, -⟩ | ⟨rfl, m, hm, rfl⟩
    · exact hb.models hl h hk
    · rcases (hf m hm).kind with ⟨hkind, hbase⟩ | ⟨-, hnominal | ⟨-, -, n', hn', halias⟩⟩
      · rw [hbase]
        exact hb.models hl hm (hkind ▸ hk)
      · -- a node has one registered name only, so that it is its own base
        exact .inl (hb.lookup_inj (hnominal (by rw [hk]; rfl)) hl)
      · exact .inr (hb.lookup_inj hn' hl ▸ halias)
  composites {i _} h hk := by
    rcases node?_updated h with ⟨h, -⟩ | ⟨rfl, m, hm, rfl⟩
    · exact hb.composites h hk
    · rw [(hf m hm).name]
      rcases (hf m hm).kind with ⟨hkind, hbase⟩ | ⟨-, hnominal | ⟨href, -⟩⟩
      · rw [hbase]
        exact hb.composites hm (hkind ▸ hk)
      · have hl : b.registry.lookup (f m).baseType = some i := by
          refine hnominal ?_
          cases hkind : (f m).kind <;> simp_all [ModelKind.isComposite, ModelKind.isNominal]
        obtain ⟨m₁, hm₁, hname⟩ := hb.index hl
        rw [hm] at hm₁
        cases hm₁
        exact ⟨hname.symm, hname ▸ hl⟩
      · rw [href] at hk
        cases hk
  properties h hp := by
    rw [size_updated]
    rcases node?_updated h with ⟨h, -⟩ | ⟨rfl, m, hm, rfl⟩
    · exact hb.properties h hp
    · exact ((hf m hm).properties _ hp).elim (hb.properties hm) (fun hlt => hlt)
  composed h := by
    rcases node?_updated h with ⟨h, -⟩ | ⟨rfl, m, hm, rfl⟩
    · exact hb.composed h
    · rw [(hf m hm).composedModels, (hf m hm).composedPrimitives]
      exact hb.composed hm
  sources {i source} h := by
    obtain ⟨m, hm, hk, hl⟩ := hb.sources h
    obtain ⟨n, hn, -, hlink, hkind⟩ := node?_revised hf hm
    rcases hkind with hkind | hnone
    · exact ⟨n, hn, hkind ▸ hk, hlink.trans hl⟩
    · rw [show b.source? i = some source from h] at hnone
      cases hnone

theorem awaiting (hb : b.Sound c) {id : ModelId} {m : Model} (source : ElementSource)
    (hm : b.registry.node? id = some m) (hk : m.kind.isContainer) (hl : m.link = none) :
    (b.awaiting id source).Sound c := by
  refine ⟨hb.index, hb.distinct, hb.used, hb.targets, hb.models, hb.composites, hb.properties,
    hb.composed, ?_⟩
  intro i s h
  rw [source?_awaiting] at h
  split at h
  · next hi => exact ⟨m, hi ▸ hm, hk, hl⟩
  · exact hb.sources h

end Sound

theorem Step.sound {c : Components} {free : ModelId → Prop} {b b' : Builder} (h : Step c free b b')
    (hb : b.Sound c) : b'.Sound c := by
  cases h with
  | note e => exact hb.noted e
  | push hblank hkind => exact hb.pushed hblank hkind
  | declare hfree => exact hb.declared hfree
  | update _ hf => exact hb.updated hf
  | await _ _ hm hk hl => exact hb.awaiting _ hm hk hl

theorem Steps.sound {c : Components} {free : ModelId → Prop} {b b' : Builder} (h : Steps c free b b')
    (hb : b.Sound c) : b'.Sound c := by
  induction h with
  | refl => exact hb
  | tail _ hstep ih => exact hstep.sound ih

end Builder

end OpenApi
