import OpenApi.Proofs.Frame
import OpenApi.Proofs.FreeName

set_option autoImplicit false

/-! # Building schemas is a run of elementary changes

`occurrence_steps` and its companions follow the recursion over a schema once and find that each step
is an elementary change, and one of a new node unless it belongs to the node being filled. What
elementary changes keep and leave alone is thereby known of every schema, whether its construction
succeeds or fails. -/

namespace OpenApi

/-- The component that a path points at is there. -/
theorem Components.mem_keys_of_targetName {c : Components} {path target : String}
    (h : c.targetName path = .ok target) : target ∈ Entries.keys c.schemas := by
  unfold Components.targetName Components.target at h
  split at h
  · cases h
  · next name hn =>
      split at h
      · next s hs =>
          cases h
          by_contra hmem
          rw [Entries.get?_eq_none_iff.2 hmem] at hs
          cases hs
      · cases h

namespace Builder

variable {c : Components} {free : ModelId → Prop} {b b' : Builder}

/-- A sound builder in which every component is registered. -/
structure Ready (c : Components) (b : Builder) : Prop where
  sound : b.Sound c
  declared : ∀ n ∈ Entries.keys c.schemas, ∃ id, b.registry.lookup n = some id

theorem Steps.ready (h : Steps c free b b') (hb : b.Ready c) : b'.Ready c where
  sound := Steps.sound h hb.sound
  declared n hn := by
    obtain ⟨id, hid⟩ := hb.declared n hn
    exact ⟨id, (Steps.grows h hb.sound).lookup hid⟩

theorem Ready.lookup_target (hb : b.Ready c) {path target : String}
    (h : c.targetName path = .ok target) : ∃ id, b.registry.lookup target = some id :=
  hb.declared target (Components.mem_keys_of_targetName h)

/-- A node without a link for which nothing waits: it may still become anything. -/
structure Vacant (b : Builder) (id : ModelId) : Prop where
  node : ∃ m, b.registry.node? id = some m ∧ m.link = none
  source : b.source? id = none

theorem Sound.vacant_pushed (hb : b.Sound c) (name : String) :
    (b.pushed (Model.any name)).Vacant b.registry.nodes.size :=
  ⟨⟨_, Registry.node?_push_self _ _, rfl⟩, hb.source?_size⟩

/-- Changing a node in a way that keeps its link leaves it vacant. -/
theorem Vacant.updated {id : ModelId} (h : b.Vacant id) {f : Model → Model}
    (hf : ∀ m, (f m).link = m.link) : (b.updated id f).Vacant id := by
  obtain ⟨⟨m, hm, hl⟩, hs⟩ := h
  exact ⟨⟨f m, Registry.node?_update_self hm, (hf m).trans hl⟩, hs⟩

/-! ## Promotion -/

/-- The builder after a name is found for a promoted schema, and a node declared. -/
def promoting (b : Builder) (hint : String) : Builder :=
  (b.noted (.promoting (freeName b.usedNames hint))).declared (freeName b.usedNames hint)

theorem promoting_steps (free : ModelId → Prop) (hint : String) : Steps c free b (b.promoting hint) :=
  .tail (.single (.note _)) (.declare (freeName_not_mem b.usedNames hint))

theorem Ready.promoting (hb : b.Ready c) (hint : String) : (b.promoting hint).Ready c :=
  Steps.ready (promoting_steps (fun _ => False) hint) hb

theorem size_promoting (b : Builder) (hint : String) :
    (b.promoting hint).registry.nodes.size = b.registry.nodes.size + 1 :=
  Registry.size_push _ _

theorem promoting_lookup (b : Builder) (hint : String) :
    (b.promoting hint).registry.lookup (freeName b.usedNames hint) = some b.registry.nodes.size :=
  Registry.lookup_register_self _ _ _

theorem promoting_node (b : Builder) (hint : String) :
    (b.promoting hint).registry.node? b.registry.nodes.size
      = some (Model.any (freeName b.usedNames hint)) :=
  Registry.node?_push_self _ _

theorem Sound.vacant_promoting (hb : b.Sound c) (hint : String) :
    (b.promoting hint).Vacant b.registry.nodes.size :=
  ⟨⟨_, promoting_node b hint, rfl⟩, hb.source?_size⟩

/-! ## Revisions -/

/-- A change that leaves the shape of a node alone. -/
theorem Revision.of_shape {id : ModelId} {m n : Model} (hname : n.name = m.name)
    (hlink : n.link = m.link) (hmodels : n.composedModels = m.composedModels)
    (hprimitives : n.composedPrimitives = m.composedPrimitives)
    (hproperties : n.properties = m.properties) (hkind : n.kind = m.kind)
    (hbase : n.baseType = m.baseType) : b.Revision c id m n where
  name := hname
  link := hlink
  composedModels := hmodels
  composedPrimitives := hprimitives
  properties _ hp := .inl (hproperties ▸ hp)
  kind := .inl ⟨hkind, hbase⟩

/-- Giving a node properties that are there. -/
theorem Revision.of_properties {id : ModelId} {m n : Model} (hname : n.name = m.name)
    (hlink : n.link = m.link) (hmodels : n.composedModels = m.composedModels)
    (hprimitives : n.composedPrimitives = m.composedPrimitives)
    (hproperties : ∀ p ∈ n.properties, p < b.registry.nodes.size) (hkind : n.kind = m.kind)
    (hbase : n.baseType = m.baseType) : b.Revision c id m n where
  name := hname
  link := hlink
  composedModels := hmodels
  composedPrimitives := hprimitives
  properties p hp := .inr (hproperties p hp)
  kind := .inl ⟨hkind, hbase⟩

/-- Giving a node for which nothing waits a kind. -/
theorem Revision.of_kind {id : ModelId} {m n : Model} (hname : n.name = m.name)
    (hlink : n.link = m.link) (hmodels : n.composedModels = m.composedModels)
    (hprimitives : n.composedPrimitives = m.composedPrimitives)
    (hproperties : n.properties = m.properties) (hsource : b.source? id = none)
    (hnominal : n.kind.isNominal → b.registry.lookup n.baseType = some id) :
    b.Revision c id m n where
  name := hname
  link := hlink
  composedModels := hmodels
  composedPrimitives := hprimitives
  properties _ hp := .inl (hproperties ▸ hp)
  kind := .inr ⟨hsource, .inl hnominal⟩

end Builder

namespace Build

variable {α β σ : Type}

/-- A successful promotion fills the node that it has declared under the free name. -/
theorem run_promote_ok {hint name : String} {fill : ModelId → String → Build Unit} {id : ModelId}
    {b b' : Builder} (h : run (promote hint fill) b = (.ok (name, id), b')) :
    name = freeName b.usedNames hint ∧ id = b.registry.nodes.size ∧
      run (fill b.registry.nodes.size (freeName b.usedNames hint)) (b.promoting hint)
        = (.ok (), b') := by
  rw [run_promote] at h
  obtain ⟨_, b₁, h₁, h₂⟩ := run_bind_ok h
  cases h₂
  exact ⟨rfl, rfl, h₁⟩

/-! ## What successful runs do -/

section Runs

variable {c : Components} {name hint : String} {b b' : Builder} {id : ModelId}

/-- An occurrence of a reference is a node that refers to the target of the path. -/
theorem run_occurrence_ref_ok {path : String} {nullable : Option Bool}
    (h : run (occurrence c name hint (.ref path nullable)) b = (.ok id, b')) :
    ∃ target, c.targetName path = .ok target ∧ id = b.registry.nodes.size ∧
      b' = b.pushed (referenceTo name target nullable) := by
  rw [occurrence] at h
  obtain ⟨target, b₁, h₁, h⟩ := run_bind_ok h
  obtain ⟨htarget, rfl⟩ := run_resolving_ok h₁
  obtain ⟨rfl, rfl⟩ := run_push_ok h
  exact ⟨target, htarget, rfl, rfl⟩

/-- An occurrence of an object or a composite is a node that refers to the model that is promoted. -/
theorem run_occurrence_promoted_ok {s : Schema} (hform : s.form.isPromoted)
    (h : run (occurrence c name hint (.inline s)) b = (.ok id, b')) :
    ∃ b₁, run (fill c b.registry.nodes.size (freeName b.usedNames hint) s) (b.promoting hint)
        = (.ok (), b₁) ∧ id = b₁.registry.nodes.size ∧
      b' = b₁.pushed { referenceTo name (freeName b.usedNames hint) s.nullable with
        description := s.description } := by
  rw [occurrence, if_pos hform] at h
  obtain ⟨⟨target, t⟩, b₁, h₁, h⟩ := run_bind_ok h
  obtain ⟨rfl, rfl, hfill⟩ := run_promote_ok h₁
  obtain ⟨rfl, rfl⟩ := run_push_ok h
  exact ⟨b₁, hfill, rfl, rfl⟩

/-- An occurrence of any other schema is a node that is filled itself. -/
theorem run_occurrence_inPlace_ok {s : Schema} (hform : ¬ s.form.isPromoted)
    (h : run (occurrence c name hint (.inline s)) b = (.ok id, b')) :
    id = b.registry.nodes.size ∧
      run (fill c b.registry.nodes.size hint s) (b.pushed (Model.any name)) = (.ok (), b') := by
  rw [occurrence, if_neg hform] at h
  obtain ⟨id', b₁, h₁, h⟩ := run_bind_ok h
  obtain ⟨_, b₂, h₂, h⟩ := run_bind_ok h
  obtain ⟨rfl, rfl⟩ := run_pure_ok h
  obtain ⟨rfl, rfl⟩ := run_push_ok h₁
  exact ⟨rfl, h₂⟩

/-- Elements that are a reference are what its target is, and nothing is added for them. -/
theorem run_linkTarget_ref_ok {path : String} {nullable : Option Bool}
    (h : run (linkTarget c hint (.ref path nullable)) b = (.ok id, b')) :
    ∃ target t, c.targetName path = .ok target ∧ b.registry.lookup target = some t ∧
      id = b.registry.canonical t ∧ b' = b := by
  rw [linkTarget] at h
  obtain ⟨target, b₁, h₁, h⟩ := run_bind_ok h
  obtain ⟨htarget, rfl⟩ := run_resolving_ok h₁
  obtain ⟨r, b₂, h₂, h⟩ := run_bind_ok h
  cases h₂
  split at h
  · next t ht =>
      obtain ⟨rfl, rfl⟩ := run_pure_ok h
      exact ⟨target, t, htarget, ht, rfl, rfl⟩
  · cases h

/-- Elements that are promoted are the model itself. -/
theorem run_linkTarget_promoted_ok {s : Schema} (hform : s.form.isPromoted)
    (h : run (linkTarget c hint (.inline s)) b = (.ok id, b')) :
    id = b.registry.nodes.size ∧
      run (fill c b.registry.nodes.size (freeName b.usedNames hint) s) (b.promoting hint)
        = (.ok (), b') := by
  rw [linkTarget, if_pos hform] at h
  obtain ⟨⟨target, t⟩, b₁, h₁, h⟩ := run_bind_ok h
  obtain ⟨rfl, rfl, hfill⟩ := run_promote_ok h₁
  obtain ⟨rfl, rfl⟩ := run_pure_ok h
  exact ⟨rfl, hfill⟩

/-- Any other elements occur under the hint. -/
theorem run_linkTarget_inPlace {s : Schema} (hform : ¬ s.form.isPromoted) :
    linkTarget c hint (.inline s) = occurrence c hint hint (.inline s) := by
  rw [linkTarget, if_neg hform]

end Runs

/-! ## New nodes -/

/-- A node that a step answers is new. -/
def AddsOne (m : Build ModelId) : Prop :=
  ∀ b id b', run m b = (.ok id, b') → b.registry.nodes.size ≤ id ∧ id < b'.registry.nodes.size

/-- All nodes that a step answers are new. -/
def AddsAll (m : Build (List ModelId)) : Prop :=
  ∀ b ids b', run m b = (.ok ids, b') →
    ∀ id ∈ ids, b.registry.nodes.size ≤ id ∧ id < b'.registry.nodes.size

/-- A bounded step removes no node. -/
theorem Bounded.size_le {m : Build α} {k : Nat} (h : Bounded m k) {b b' : Builder} {a : α}
    (hr : run m b = (.ok a, b')) : b.registry.nodes.size ≤ b'.registry.nodes.size := by
  have hle := (h b).1
  rw [hr] at hle
  exact hle

theorem push_addsOne (m : Model) : AddsOne (push m) := by
  intro b id b' h
  cases h
  exact ⟨Nat.le_refl _, Nat.lt_of_lt_of_eq (Nat.lt_succ_self _) (b.size_pushed m).symm⟩

theorem occurrence_addsOne (c : Components) (name hint : String) (s : SchemaOrRef) :
    AddsOne (occurrence c name hint s) := by
  intro b id b' h
  cases s with
  | ref path nullable =>
      obtain ⟨target, -, rfl, rfl⟩ := run_occurrence_ref_ok h
      exact push_addsOne _ _ _ _ rfl
  | inline s =>
      by_cases hform : s.form.isPromoted
      · obtain ⟨b₁, hfill, rfl, rfl⟩ := run_occurrence_promoted_ok hform h
        have hle := (fill_bounded c _ _ s).size_le hfill
        rw [Builder.size_promoting] at hle
        obtain ⟨-, hlt⟩ := push_addsOne _ b₁ _ _ rfl
        exact ⟨Nat.le_of_succ_le hle, hlt⟩
      · obtain ⟨rfl, hfill⟩ := run_occurrence_inPlace_ok hform h
        obtain ⟨hge, hlt⟩ := push_addsOne (Model.any name) b _ _ rfl
        exact ⟨hge, Nat.lt_of_lt_of_le hlt ((fill_bounded c _ hint s).size_le hfill)⟩

theorem properties_addsAll (c : Components) (parent : String) (required : List String)
    (ps : List (String × SchemaOrRef)) : AddsAll (properties c parent required ps) := by
  intro b ids b' h
  induction ps generalizing b ids with
  | nil =>
      cases h
      simp
  | cons p rest ih =>
      obtain ⟨field, s⟩ := p
      rw [properties] at h
      obtain ⟨id, b₁, h₁, h⟩ := run_bind_ok h
      obtain ⟨_, b₂, h₂, h⟩ := run_bind_ok h
      obtain ⟨ids', b₃, h₃, h⟩ := run_bind_ok h
      cases h
      obtain ⟨hge, hlt⟩ := occurrence_addsOne c _ _ s _ _ _ h₁
      have h₁₂ := (Bounded.update _ _).size_le h₂
      have h₂₃ := (properties_bounded c parent required rest).size_le h₃
      rw [List.forall_mem_cons]
      refine ⟨⟨hge, Nat.lt_of_lt_of_le hlt (Nat.le_trans h₁₂ h₂₃)⟩, fun i hi => ?_⟩
      obtain ⟨hi₁, hi₂⟩ := ih b₂ ids' h₃ i hi
      exact ⟨Nat.le_trans (Nat.le_trans hge (Nat.le_of_lt hlt)) (Nat.le_trans h₁₂ hi₁), hi₂⟩

theorem branches_addsAll (c : Components) (parent : String) (i : Nat) (seen bs : List SchemaOrRef) :
    AddsAll (branches c parent i seen bs) := by
  intro b ids b' h
  induction bs generalizing b ids i seen with
  | nil =>
      cases h
      simp
  | cons s rest ih =>
      rw [branches] at h
      split at h
      · obtain ⟨_, b₁, h₁, h⟩ := run_bind_ok h
        cases h₁
        exact ih _ _ (b.noted _) _ h
      · obtain ⟨name, b₁, h₁, h⟩ := run_bind_ok h
        obtain ⟨id, b₂, h₂, h⟩ := run_bind_ok h
        obtain ⟨ids', b₃, h₃, h⟩ := run_bind_ok h
        cases h
        have h₀₁ := (Bounded.branchName c _ s).size_le h₁
        obtain ⟨hge, hlt⟩ := occurrence_addsOne c _ _ s _ _ _ h₂
        have h₂₃ := (branches_bounded c parent (i + 1) (seen ++ [s]) rest).size_le h₃
        rw [List.forall_mem_cons]
        refine ⟨⟨Nat.le_trans h₀₁ hge, Nat.lt_of_lt_of_le hlt h₂₃⟩, fun j hj => ?_⟩
        obtain ⟨hj₁, hj₂⟩ := ih _ _ b₂ ids' h₃ j hj
        exact ⟨Nat.le_trans (Nat.le_trans h₀₁ hge) (Nat.le_trans (Nat.le_of_lt hlt) hj₁), hj₂⟩

theorem ownProperties_addsAll (c : Components) (parent : String) (s : Schema) :
    AddsAll (ownProperties parent s fun target => properties c target s.required s.properties) := by
  intro b ids b' h
  unfold ownProperties at h
  split at h
  · cases h
    simp
  · obtain ⟨⟨target, t⟩, b₁, h₁, h⟩ := run_bind_ok h
    obtain ⟨id, b₂, h₂, h⟩ := run_bind_ok h
    cases h
    have hle := (Bounded.promote (parent ++ "Properties") fun id target => .makeObject id target
      (properties_bounded c target s.required s.properties)).size_le h₁
    obtain ⟨hge, hlt⟩ := push_addsOne _ _ _ _ h₂
    intro i hi
    rw [List.mem_singleton] at hi
    subst hi
    exact ⟨Nat.le_trans hle hge, hlt⟩

theorem constituents_addsAll (c : Components) (k : Combination) (parent : String) (s : Schema) :
    AddsAll (constituents k (branches c parent 1 [] s.oneOf) (branches c parent 1 [] s.anyOf)
      (branches c parent 1 [] s.allOf)
      (ownProperties parent s fun target => properties c target s.required s.properties)) := by
  cases k with
  | oneOf => exact branches_addsAll c parent 1 [] s.oneOf
  | anyOf => exact branches_addsAll c parent 1 [] s.anyOf
  | allOf =>
      intro b ids b' h
      obtain ⟨ids₁, b₁, h₁, h⟩ := run_bind_ok h
      obtain ⟨ids₂, b₂, h₂, h⟩ := run_bind_ok h
      cases h
      have hall := branches_addsAll c parent 1 [] s.allOf _ _ _ h₁
      have hown := ownProperties_addsAll c parent s _ _ _ h₂
      have h₀₁ := (branches_bounded c parent 1 [] s.allOf).size_le h₁
      have h₁₂ := (Bounded.ownProperties parent s fun target =>
        properties_bounded c target s.required s.properties).size_le h₂
      intro i hi
      rcases List.mem_append.1 hi with hi | hi
      · exact ⟨(hall i hi).1, Nat.lt_of_lt_of_le (hall i hi).2 h₁₂⟩
      · exact ⟨Nat.le_trans h₀₁ (hown i hi).1, (hown i hi).2⟩

/-! ## Runs of steps -/

section Steps

open Builder

variable {c : Components} {free : ModelId → Prop} {b : Builder}

/-- What changes one thing after another makes elementary changes if both do. -/
theorem steps_bind {m : Build α} {f : α → Build β} (hm : Steps c free b (run m b).2)
    (hf : ∀ a b₁, run m b = (.ok a, b₁) → Steps c free b₁ (run (f a) b₁).2) :
    Steps c free b (run (m >>= f) b).2 := by
  rw [run_bind]
  rcases hr : run m b with ⟨e | a, b₁⟩
  · rw [hr] at hm
    exact hm
  · rw [hr] at hm
    exact hm.trans (hf a b₁ hr)

/-- The builder that a run ends with is reached by the changes it makes. -/
theorem steps_of_run {m : Build α} {r : Except BuildError α} {b' : Builder}
    (hm : Steps c free b (run m b).2) (h : run m b = (r, b')) : Steps c free b b' := by
  rw [h] at hm
  exact hm

theorem resolving_steps (r : Except ResolveError α) : Steps c free b (run (resolving r) b).2 := by
  rw [run_resolving_snd]

theorem update_steps {id : ModelId} {f : Model → Model} (hid : free id)
    (hf : ∀ m, b.registry.node? id = some m → b.Revision c id m (f m)) :
    Steps c free b (run (update id f) b).2 :=
  .single (.update hid hf)

/-- A reference may be added once its target is registered. -/
theorem push_reference_steps {m : Model} {t : ModelId} (hblank : m.Blank) (hk : m.kind = .reference)
    (ht : b.registry.lookup m.baseType = some t) : Steps c free b (run (push m) b).2 :=
  .single (.push hblank (.inr ⟨hk, t, ht⟩))

theorem promote_steps {hint : String} {fill : ModelId → String → Build Unit}
    (h : Steps c free (b.promoting hint)
      (run (fill b.registry.nodes.size (freeName b.usedNames hint)) (b.promoting hint)).2) :
    Steps c free b (run (promote hint fill) b).2 := by
  rw [run_promote]
  refine (promoting_steps free hint).trans (steps_bind h ?_)
  intro _ b₁ _
  exact .refl

/-- What is promoted stays registered while it is filled. -/
theorem promote_lookup {hint name : String} {fill : ModelId → String → Build Unit} {id : ModelId}
    {b' : Builder} (hb : b.Ready c)
    (h : Steps c free (b.promoting hint)
      (run (fill b.registry.nodes.size (freeName b.usedNames hint)) (b.promoting hint)).2)
    (hr : run (promote hint fill) b = (.ok (name, id), b')) :
    b'.registry.lookup name = some id := by
  obtain ⟨rfl, rfl, hfill⟩ := run_promote_ok hr
  rw [hfill] at h
  exact (Steps.grows h (hb.promoting hint).sound).lookup (promoting_lookup b hint)

/-- A node is given a kind, then parts are built, and these become its properties. -/
theorem assemble_steps {id : ModelId} {kind : ModelKind} {name : String}
    {build : Build (List ModelId)} {f : List ModelId → Model → Model} (hb : b.Ready c) (hid : free id)
    (hv : b.Vacant id) (hn : b.registry.lookup name = some id) (hadds : AddsAll build)
    (hbuild : ∀ b₁, Ready c b₁ → b₁.registry.nodes.size = b.registry.nodes.size →
      Steps c free b₁ (run build b₁).2)
    (hf : ∀ b₁ ids m, (∀ i ∈ ids, i < b₁.registry.nodes.size) → Revision c b₁ id m (f ids m)) :
    Steps c free b (run (do
      setKind id kind name
      let ids ← build
      update id (f ids)) b).2 := by
  have hkind : Steps c free b (run (setKind id kind name) b).2 :=
    update_steps hid fun m _ => .of_kind rfl rfl rfl rfl rfl hv.source fun _ => hn
  refine steps_bind hkind ?_
  intro _ b₁ h₁
  cases h₁
  refine steps_bind (hbuild _ (Steps.ready hkind hb) (size_updated _ _ _)) ?_
  intro ids b₂ h₂
  exact update_steps hid fun m _ => hf b₂ ids m fun i hi => (hadds _ _ _ h₂ i hi).2

theorem makeObject_steps {id : ModelId} {name : String} {build : Build (List ModelId)}
    (hb : b.Ready c) (hid : free id) (hv : b.Vacant id) (hn : b.registry.lookup name = some id)
    (hadds : AddsAll build)
    (hbuild : ∀ b₁, Ready c b₁ → b₁.registry.nodes.size = b.registry.nodes.size →
      Steps c free b₁ (run build b₁).2) :
    Steps c free b (run (makeObject id name build) b).2 :=
  assemble_steps hb hid hv hn hadds hbuild fun _ _ _ h => .of_properties rfl rfl rfl rfl h rfl rfl

theorem makeComposite_steps {id : ModelId} {name : String} {k : Combination}
    {d : Option Discriminator} {build : Build (List ModelId)} (hb : b.Ready c) (hid : free id)
    (hv : b.Vacant id) (hn : b.registry.lookup name = some id) (hadds : AddsAll build)
    (hbuild : ∀ b₁, Ready c b₁ → b₁.registry.nodes.size = b.registry.nodes.size →
      Steps c free b₁ (run build b₁).2) :
    Steps c free b (run (makeComposite id name k d build) b).2 :=
  assemble_steps hb hid hv hn hadds hbuild fun _ _ _ h => .of_properties rfl rfl rfl rfl h rfl rfl

theorem makeContainer_steps {id : ModelId} {kind : ModelKind} {source : ElementSource}
    (hid : free id) (hv : b.Vacant id) (hk : kind.isContainer) :
    Steps c free b (run (makeContainer id kind source) b).2 := by
  obtain ⟨⟨m, hm, hl⟩, hs⟩ := hv
  refine steps_bind (update_steps hid fun m _ => .of_kind rfl rfl rfl rfl rfl hs ?_) ?_
  · intro hn
    cases kind <;> simp_all [ModelKind.isNominal, ModelKind.isContainer]
  · intro _ b₁ h₁
    cases h₁
    exact .single (.await hid hs (Registry.node?_update_self hm) hk hl)

theorem ownProperties_steps {parent : String} {s : SchemaObject σ}
    {build : String → Build (List ModelId)} (hb : b.Ready c)
    (hfree : ∀ i, b.registry.nodes.size ≤ i → free i) (hadds : ∀ name, AddsAll (build name))
    (hbuild : ∀ b₁ name, Ready c b₁ → b.registry.nodes.size ≤ b₁.registry.nodes.size →
      Steps c free b₁ (run (build name) b₁).2) :
    Steps c free b (run (ownProperties parent s build) b).2 := by
  unfold ownProperties
  split
  · exact .refl
  · have hfill : Steps c free (b.promoting (parent ++ "Properties")) (run
        (makeObject b.registry.nodes.size (freeName b.usedNames (parent ++ "Properties"))
          (build (freeName b.usedNames (parent ++ "Properties"))))
        (b.promoting (parent ++ "Properties"))).2 := by
      refine makeObject_steps (hb.promoting _) (hfree _ (Nat.le_refl _))
        (hb.sound.vacant_promoting _) (promoting_lookup b _) (hadds _) ?_
      intro b₁ hb₁ hsize
      refine hbuild b₁ _ hb₁ ?_
      rw [hsize, size_promoting]
      exact Nat.le_succ _
    refine steps_bind (promote_steps hfill) ?_
    rintro ⟨target, t⟩ b₁ h₁
    refine steps_bind (push_reference_steps ⟨rfl, rfl, rfl, rfl⟩ rfl (promote_lookup hb hfill h₁)) ?_
    intro id b₂ _
    exact .refl

/-- The constituents of a composite, once it is known of its branches and properties. -/
theorem constituents_steps_of {k : Combination} {parent : String} {s : Schema} (hb : b.Ready c)
    (hfree : ∀ i, b.registry.nodes.size ≤ i → free i)
    (hone : ∀ b, Ready c b → (∀ i, b.registry.nodes.size ≤ i → free i) →
      Steps c free b (run (branches c parent 1 [] s.oneOf) b).2)
    (hany : ∀ b, Ready c b → (∀ i, b.registry.nodes.size ≤ i → free i) →
      Steps c free b (run (branches c parent 1 [] s.anyOf) b).2)
    (hall : ∀ b, Ready c b → (∀ i, b.registry.nodes.size ≤ i → free i) →
      Steps c free b (run (branches c parent 1 [] s.allOf) b).2)
    (hown : ∀ name b, Ready c b → (∀ i, b.registry.nodes.size ≤ i → free i) →
      Steps c free b (run (properties c name s.required s.properties) b).2) :
    Steps c free b (run (constituents k (branches c parent 1 [] s.oneOf)
      (branches c parent 1 [] s.anyOf) (branches c parent 1 [] s.allOf)
      (ownProperties parent s fun target => properties c target s.required s.properties)) b).2 := by
  cases k with
  | oneOf => exact hone b hb hfree
  | anyOf => exact hany b hb hfree
  | allOf =>
      have hsteps := hall b hb hfree
      refine steps_bind hsteps ?_
      intro ids₁ b₁ h₁
      rw [h₁] at hsteps
      have hfree₁ : ∀ i, b₁.registry.nodes.size ≤ i → free i := fun i hi =>
        hfree i (Nat.le_trans (Steps.grows hsteps hb.sound).size hi)
      refine steps_bind (ownProperties_steps (Steps.ready hsteps hb) hfree₁
        (fun _ => properties_addsAll c _ _ _) ?_) fun _ _ _ => .refl
      intro b₂ name hb₂ hsize₂
      exact hown name b₂ hb₂ fun i hi => hfree₁ i (Nat.le_trans hsize₂ hi)

/-! ## Runs of schemas -/

mutual

/-- Adding an occurrence changes no node that was there. -/
theorem occurrence_steps (c : Components) (name hint : String) (free : ModelId → Prop) :
    ∀ (s : SchemaOrRef) (b : Builder), b.Ready c → (∀ i, b.registry.nodes.size ≤ i → free i) →
      Steps c free b (run (occurrence c name hint s) b).2
  | .ref path nullable, b, hb, _ => by
      rw [occurrence]
      refine steps_bind (resolving_steps _) ?_
      intro target b₁ h₁
      obtain ⟨htarget, rfl⟩ := run_resolving_ok h₁
      obtain ⟨t, ht⟩ := hb.lookup_target htarget
      exact push_reference_steps ⟨rfl, rfl, rfl, rfl⟩ rfl ht
  | .inline s, b, hb, hfree => by
      rw [occurrence]
      split
      · have hfill := fill_steps c b.registry.nodes.size (freeName b.usedNames hint) free s
          (b.promoting hint) (hb.promoting hint) (hfree _ (Nat.le_refl _))
          (fun i hi => hfree i (by rw [size_promoting] at hi; omega))
          (hb.sound.vacant_promoting hint) fun _ => promoting_lookup b hint
        refine steps_bind (promote_steps hfill) ?_
        rintro ⟨target, t⟩ b₁ h₁
        exact push_reference_steps ⟨rfl, rfl, rfl, rfl⟩ rfl (promote_lookup hb hfill h₁)
      · next hform =>
          have hpush : Steps c free b (run (push (Model.any name)) b).2 :=
            .single (.push (Model.any_blank name) (.inl rfl))
          refine steps_bind hpush ?_
          intro id b₁ h₁
          cases h₁
          refine steps_bind (fill_steps c _ hint free s _ (Steps.ready hpush hb)
            (hfree _ (Nat.le_refl _)) (fun i hi => hfree i ?_) (hb.sound.vacant_pushed name)
            fun h => absurd h hform) fun _ _ _ => .refl
          exact Nat.le_trans (Steps.grows hpush hb.sound).size hi

/-- Filling a node changes no other node that was there. -/
theorem fill_steps (c : Components) (id : ModelId) (hint : String) (free : ModelId → Prop) :
    ∀ (s : SchemaObject SchemaOrRef) (b : Builder), b.Ready c → free id →
      (∀ i, b.registry.nodes.size ≤ i → free i) → b.Vacant id →
      (s.form.isPromoted → b.registry.lookup hint = some id) →
      Steps c free b (run (fill c id hint s) b).2
  | s, b, hb, hid, hfree, hv, hn => by
      rw [fill]
      have hdescribe : Steps c free b (run (update id (describe s)) b).2 :=
        update_steps hid fun m _ => .of_shape rfl rfl rfl rfl rfl rfl rfl
      refine steps_bind hdescribe ?_
      intro _ b₁ h₁
      cases h₁
      have hb₁ := Steps.ready hdescribe hb
      have hv₁ : (b.updated id (describe s)).Vacant id := hv.updated fun _ => rfl
      have hfree₁ : ∀ i, (b.updated id (describe s)).registry.nodes.size ≤ i → free i := by
        intro i hi
        rw [Builder.size_updated] at hi
        exact hfree i hi
      -- one goal for each form of a schema
      split
      · next hform =>
          refine makeObject_steps hb₁ hid hv₁ (hn (by rw [hform]; rfl)) (properties_addsAll c _ _ _) ?_
          intro b₂ hb₂ hsize
          exact properties_steps c _ _ free s.properties b₂ hb₂ (hsize ▸ hfree₁)
      · next k hform =>
          refine makeComposite_steps hb₁ hid hv₁ (hn (by rw [hform]; rfl))
            (constituents_addsAll c k hint s) ?_
          intro b₂ hb₂ hsize
          exact constituents_steps_of hb₂ (hsize ▸ hfree₁) (branches_steps c hint 1 [] free s.oneOf)
            (branches_steps c hint 1 [] free s.anyOf) (branches_steps c hint 1 [] free s.allOf)
            fun name => properties_steps c name s.required free s.properties
      · exact update_steps hid fun m _ => .of_kind rfl rfl rfl rfl rfl hv.source fun h => by cases h
      · exact makeContainer_steps hid hv₁ rfl
      · exact makeContainer_steps hid hv₁ rfl
      · exact update_steps hid fun m _ => .of_kind rfl rfl rfl rfl rfl hv.source fun h => by cases h

/-- Adding properties changes no node that was there. -/
theorem properties_steps (c : Components) (parent : String) (required : List String)
    (free : ModelId → Prop) :
    ∀ (ps : List (String × SchemaOrRef)) (b : Builder), b.Ready c →
      (∀ i, b.registry.nodes.size ≤ i → free i) →
      Steps c free b (run (properties c parent required ps) b).2
  | [], _, _, _ => .refl
  | (field, s) :: rest, b, hb, hfree => by
      rw [properties]
      have hocc := occurrence_steps c field (parent ++ Text.pascalCase field) free s b hb hfree
      refine steps_bind hocc ?_
      intro id b₁ h₁
      obtain ⟨hid, -⟩ := occurrence_addsOne c _ _ s _ _ _ h₁
      rw [h₁] at hocc
      have hflags : Steps c free b₁
          (run (update id (propertyFlags (required.contains field) s)) b₁).2 := by
        refine update_steps (hfree id hid) fun m _ => ?_
        cases s <;> exact .of_shape rfl rfl rfl rfl rfl rfl rfl
      refine steps_bind hflags ?_
      intro _ b₂ h₂
      cases h₂
      have hall := hocc.trans hflags
      refine steps_bind (properties_steps c parent required free rest _ (Steps.ready hall hb)
        fun i hi => hfree i (Nat.le_trans (Steps.grows hall hb.sound).size hi)) fun _ _ _ => .refl

/-- Adding constituents changes no node that was there. -/
theorem branches_steps (c : Components) (parent : String) (i : Nat) (seen : List SchemaOrRef)
    (free : ModelId → Prop) :
    ∀ (bs : List SchemaOrRef) (b : Builder), b.Ready c →
      (∀ i, b.registry.nodes.size ≤ i → free i) →
      Steps c free b (run (branches c parent i seen bs) b).2
  | [], _, _, _ => .refl
  | s :: rest, b, hb, hfree => by
      rw [branches]
      split
      · have hnote : Steps c free b (run (note (.droppingConstituent parent i)) b).2 :=
          .single (.note _)
        refine steps_bind hnote ?_
        intro _ b₁ h₁
        cases h₁
        exact branches_steps c _ _ _ free rest _ (Steps.ready hnote hb) hfree
      · have hname : Steps c free b (run (branchName c (parent ++ "Variant" ++ toString i) s) b).2 := by
          cases s
          · exact resolving_steps _
          · exact .refl
        refine steps_bind hname ?_
        intro name b₁ h₁
        rw [h₁] at hname
        have hb₁ := Steps.ready hname hb
        have hfree₁ : ∀ i, b₁.registry.nodes.size ≤ i → free i := fun i hi =>
          hfree i (Nat.le_trans (Steps.grows hname hb.sound).size hi)
        have hocc := occurrence_steps c name (parent ++ "Variant" ++ toString i) free s b₁ hb₁ hfree₁
        refine steps_bind hocc ?_
        intro id b₂ h₂
        rw [h₂] at hocc
        refine steps_bind (branches_steps c _ _ _ free rest b₂ (Steps.ready hocc hb₁)
          fun i hi => hfree₁ i (Nat.le_trans (Steps.grows hocc hb₁.sound).size hi))
          fun _ _ _ => .refl

end

theorem constituents_steps (c : Components) (k : Combination) (parent : String) (s : Schema)
    (hb : b.Ready c) (hfree : ∀ i, b.registry.nodes.size ≤ i → free i) :
    Steps c free b (run (constituents k (branches c parent 1 [] s.oneOf)
      (branches c parent 1 [] s.anyOf) (branches c parent 1 [] s.allOf)
      (ownProperties parent s fun target => properties c target s.required s.properties)) b).2 :=
  constituents_steps_of hb hfree (branches_steps c parent 1 [] free s.oneOf)
    (branches_steps c parent 1 [] free s.anyOf) (branches_steps c parent 1 [] free s.allOf)
    fun name => properties_steps c name s.required free s.properties

/-- Filling the node that is declared for a promoted schema changes no node that was there. -/
theorem fill_promoting_steps (c : Components) (hint : String) (free : ModelId → Prop) (s : Schema)
    (hb : b.Ready c) (hfree : ∀ i, b.registry.nodes.size ≤ i → free i) :
    Steps c free (b.promoting hint)
      (run (fill c b.registry.nodes.size (freeName b.usedNames hint) s) (b.promoting hint)).2 :=
  fill_steps c _ _ free s _ (hb.promoting hint) (hfree _ (Nat.le_refl _))
    (fun i hi => hfree i (by rw [size_promoting] at hi; omega))
    (hb.sound.vacant_promoting hint) fun _ => promoting_lookup b hint

/-- Building the elements of a container changes no node that was there. -/
theorem linkTarget_steps (c : Components) (hint : String) (s : SchemaOrRef) (hb : b.Ready c)
    (hfree : ∀ i, b.registry.nodes.size ≤ i → free i) :
    Steps c free b (run (linkTarget c hint s) b).2 := by
  cases s with
  | ref path nullable =>
      rw [linkTarget]
      refine steps_bind (resolving_steps _) ?_
      intro target b₁ h₁
      obtain ⟨-, rfl⟩ := run_resolving_ok h₁
      refine steps_bind .refl ?_
      intro r b₂ h₂
      cases h₂
      split <;> exact .refl
  | inline s =>
      rw [linkTarget]
      split
      · refine steps_bind (promote_steps (fill_promoting_steps c hint free s hb hfree)) ?_
        rintro ⟨target, t⟩ b₁ _
        exact .refl
      · exact occurrence_steps c hint hint free (.inline s) b hb hfree

end Steps

end Build

end OpenApi
