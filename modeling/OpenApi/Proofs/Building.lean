import OpenApi.Proofs.Representation
import OpenApi.Proofs.Traversal

set_option autoImplicit false

/-! # Building schemas represents them

A successful step has added nodes that represent its schema. What it says of them is said of a view in
which only these nodes are visible, without the one that it answers: the step after it may still
change that one, and whatever the nodes stand in is not finished yet. -/

namespace OpenApi

namespace Builder

variable {c : Components} {free : ModelId → Prop} {b b' : Builder}

/-- What is visible stays as it is where changes are free to be made only elsewhere. -/
theorem Grows.view_le (h : b.Grows free b') {visible visible' : ModelId → Prop}
    (hvisible : ∀ i, i < b.registry.nodes.size → visible i → visible' i ∧ ¬ free i) :
    (b.view visible).Le c (b'.view visible') where
  node := by
    rintro i m ⟨hi, hm⟩
    obtain ⟨hi', hfree⟩ := hvisible i (Registry.node?_eq_some_lt hm) hi
    exact ⟨m, ⟨hi', h.node hfree hm⟩, Model.Alike.refl m, rfl⟩
  link := by
    rintro i l ⟨m, hm, hl⟩
    obtain ⟨m', hm', -, hl'⟩ := h.kept hm
    exact ⟨m', hm', hl'.trans hl⟩
  named hn := h.lookup hn
  waits := by
    rintro i s ⟨hint, hs⟩
    exact .waiting ⟨hint, h.source hs⟩

/-- Whatever is added, all that was there stays as it is. -/
theorem Steps.whole_le (h : Steps c (b.registry.nodes.size ≤ ·) b b') (hb : b.Sound c) :
    b.whole.Le c b'.whole :=
  (Steps.grows h hb).view_le fun _ hi _ => ⟨trivial, Nat.not_le.2 hi⟩

/-- More of a graph may be visible. -/
theorem view_le_view (b : Builder) {visible visible' : ModelId → Prop}
    (hvisible : ∀ i, visible i → visible' i) : (b.view visible).Le c (b.view visible') :=
  have hgrows : b.Grows (fun _ => False) b := Grows.refl b
  hgrows.view_le fun i _ hi => ⟨hvisible i hi, fun h => h⟩

/-- A node that is not visible may change. -/
theorem view_le_updated (b : Builder) {visible : ModelId → Prop} {id : ModelId} {f : Model → Model}
    (hid : ¬ visible id) (hf : ∀ m, (f m).link = m.link) :
    (b.view visible).Le c ((b.updated id f).view visible) where
  node := by
    rintro i m ⟨hi, hm⟩
    have hne : i ≠ id := fun he => hid (he ▸ hi)
    exact ⟨m, ⟨hi, by rw [updated, Registry.node?_update_of_ne hne, hm]⟩, Model.Alike.refl m, rfl⟩
  link := by
    rintro i l ⟨m, hm, hl⟩
    by_cases hi : i = id
    · subst hi
      exact ⟨f m, Registry.node?_update_self hm, (hf m).trans hl⟩
    · exact ⟨m, by rw [updated, Registry.node?_update_of_ne hi, hm], hl⟩
  named hn := hn
  waits := by
    rintro i s ⟨hint, hs⟩
    exact .waiting ⟨hint, hs⟩

/-- Adding a node leaves the others as they are. -/
theorem view_le_pushed (b : Builder) (m : Model) {visible visible' : ModelId → Prop}
    (hvisible : ∀ i, i < b.registry.nodes.size → visible i → visible' i) :
    (b.view visible).Le c ((b.pushed m).view visible') where
  node := by
    rintro i m' ⟨hi, hm⟩
    exact ⟨m', ⟨hvisible i (Registry.node?_eq_some_lt hm) hi, Registry.node?_push_of_some hm⟩,
      Model.Alike.refl m', rfl⟩
  link := by
    rintro i l ⟨m', hm, hl⟩
    exact ⟨m', Registry.node?_push_of_some hm, hl⟩
  named hn := hn
  waits := by
    rintro i s ⟨hint, hs⟩
    exact .waiting ⟨hint, hs⟩

end Builder

namespace Build

open Builder View

variable {c : Components}

/-- What is known after parts were built for a node and became its properties: how they were built,
    the content of the node, and that the parts are as they were. -/
structure Assembled (c : Components) (id : ModelId) (kind : ModelKind) (name : String)
    (build : Build (List ModelId)) (b b₁ b₂ b' : Builder) (ids : List ModelId) (m : Model) :
    Prop where
  ready : b₁.Ready c
  size : b₁.registry.nodes.size = b.registry.nodes.size
  built : run build b₁ = (.ok ids, b₂)
  node : b'.registry.node? id = some m
  kind : m.kind = kind
  baseType : m.baseType = name
  nullable : ∀ {m₀ : Model}, b.registry.node? id = some m₀ → m.isNullable = m₀.isNullable
  bears : m.name = name
  named : b'.registry.lookup name = some id
  properties : m.properties = ids
  le : (b₂.view (b₁.registry.nodes.size ≤ ·)).Le c (b'.view (b.registry.nodes.size ≤ ·))

theorem assemble_ok {id : ModelId} {kind : ModelKind} {name : String}
    {build : Build (List ModelId)} {f : List ModelId → Model → Model} {b b' : Builder}
    (hb : b.Ready c) (hv : b.Vacant id) (hn : b.registry.lookup name = some id)
    (hbuild : ∀ b₁, Ready c b₁ → b₁.registry.nodes.size = b.registry.nodes.size →
      Steps c (b.registry.nodes.size ≤ ·) b₁ (run build b₁).2)
    (hf : ∀ ids m, (f ids m).link = m.link ∧ (f ids m).kind = m.kind ∧
      (f ids m).baseType = m.baseType ∧ (f ids m).name = m.name ∧ (f ids m).properties = ids ∧
      (f ids m).isNullable = m.isNullable)
    (hr : run (do
      setKind id kind name
      let ids ← build
      update id (f ids)) b = (.ok (), b')) :
    ∃ b₁ b₂ ids m, Assembled c id kind name build b b₁ b₂ b' ids m := by
  obtain ⟨_, b₁, h₁, hr⟩ := run_bind_ok hr
  obtain ⟨ids, b₂, h₂, hr⟩ := run_bind_ok hr
  have hb' := run_update_ok hr
  have hb₁ := run_update_ok h₁
  subst hb' hb₁
  obtain ⟨⟨m, hm, -⟩, hs⟩ := hv
  have hlt : id < b.registry.nodes.size := Registry.node?_eq_some_lt hm
  have hkind : Steps c (· = id) b (b.updated id fun m => { m with kind := kind, baseType := name }) :=
    update_steps rfl fun m _ => .of_kind rfl rfl rfl rfl rfl hs fun _ => hn
  have hb₁ := Steps.ready hkind hb
  have hsteps := hbuild _ hb₁ (size_updated _ _ _)
  rw [h₂] at hsteps
  have hgrows := Steps.grows hsteps hb₁.sound
  have hm₂ := hgrows.node (Nat.not_le.2 hlt) (Registry.node?_update_self hm)
  obtain ⟨-, hfk, hfb, hfn, hfp, hfnull⟩ := hf ids { m with kind := kind, baseType := name }
  obtain ⟨m', hm', hname⟩ := hb.sound.index hn
  rw [hm] at hm'
  cases hm'
  refine ⟨_, b₂, ids, _, hb₁, size_updated _ _ _, h₂, Registry.node?_update_self hm₂, hfk, hfb,
    fun hm₀ => ?_, hfn.trans hname, hgrows.lookup hn, hfp, ?_⟩
  · rw [hm] at hm₀
    cases hm₀
    exact hfnull
  · rw [size_updated]
    exact b₂.view_le_updated (Nat.not_le.2 hlt) fun m => (hf ids m).1

theorem makeObject_ok {id : ModelId} {name : String} {build : Build (List ModelId)} {b b' : Builder}
    (hb : b.Ready c) (hv : b.Vacant id) (hn : b.registry.lookup name = some id)
    (hbuild : ∀ b₁, Ready c b₁ → b₁.registry.nodes.size = b.registry.nodes.size →
      Steps c (b.registry.nodes.size ≤ ·) b₁ (run build b₁).2)
    (hr : run (makeObject id name build) b = (.ok (), b')) :
    ∃ b₁ b₂ ids m, Assembled c id .reference name build b b₁ b₂ b' ids m :=
  assemble_ok (f := fun ids m => { m with properties := ids }) hb hv hn hbuild
    (fun _ _ => ⟨rfl, rfl, rfl, rfl, rfl, rfl⟩) hr

theorem makeComposite_ok {id : ModelId} {name : String} {k : Combination} {d : Option Discriminator}
    {build : Build (List ModelId)} {b b' : Builder} (hb : b.Ready c) (hv : b.Vacant id)
    (hn : b.registry.lookup name = some id)
    (hbuild : ∀ b₁, Ready c b₁ → b₁.registry.nodes.size = b.registry.nodes.size →
      Steps c (b.registry.nodes.size ≤ ·) b₁ (run build b₁).2)
    (hr : run (makeComposite id name k d build) b = (.ok (), b')) :
    ∃ b₁ b₂ ids m, Assembled c id (.composite k) name build b b₁ b₂ b' ids m :=
  assemble_ok (f := fun ids m => { m with properties := ids, discriminator := d.map discriminator })
    hb hv hn hbuild (fun _ _ => ⟨rfl, rfl, rfl, rfl, rfl, rfl⟩) hr

/-- Making a node a container leaves its elements waiting. -/
theorem makeContainer_ok {id : ModelId} {kind : ModelKind} {hint : String} {s : Option SchemaOrRef}
    {m₀ : Model} {b b' : Builder} (hm₀ : b.registry.node? id = some m₀)
    (hr : run (makeContainer id kind ⟨hint, s⟩) b = (.ok (), b')) (visible : ModelId → Prop) :
    ∃ m, b'.registry.node? id = some m ∧ m.isNullable = m₀.isNullable ∧ m.kind = kind ∧
      HasElements c (b'.view visible) id s := by
  obtain ⟨_, b₁, h₁, hr⟩ := run_bind_ok hr
  have hb' := run_await_ok hr
  have hb₁ := run_update_ok h₁
  subst hb' hb₁
  refine ⟨_, Registry.node?_update_self hm₀, rfl, rfl, .waiting ⟨hint, ?_⟩⟩
  rw [source?_awaiting, if_pos rfl]

/-- The constituents of an `allOf` that come from its own properties. -/
theorem ownProperties_has {parent : String} {s : Schema} {b b' : Builder} {ids : List ModelId}
    (hb : b.Ready c)
    (hprops : ∀ name b₁ b₂ ids, Ready c b₁ →
      run (properties c name s.required s.properties) b₁ = (.ok ids, b₂) →
      HasProperties c (b₂.view (b₁.registry.nodes.size ≤ ·)) s.required s.properties ids)
    (h : run (ownProperties parent s fun name => properties c name s.required s.properties) b
      = (.ok ids, b'))
    {n : Nat} (hle : n ≤ b.registry.nodes.size) {ids₁ : List ModelId}
    (hbs : HasBranches c (b'.view (n ≤ ·)) (c.distinctBranches [] s.allOf) ids₁) :
    HasConstituents c (b'.view (n ≤ ·)) .allOf s (ids₁ ++ ids) := by
  unfold ownProperties at h
  split at h
  · next hempty =>
      obtain ⟨rfl, -⟩ := run_pure_ok h
      rw [List.append_nil]
      exact .allOf hempty hbs
  · next hempty =>
      obtain ⟨⟨target, t⟩, b₁, h₁, h⟩ := run_bind_ok h
      obtain ⟨own, b₂, h₂, h⟩ := run_bind_ok h
      obtain ⟨rfl, rfl⟩ := run_pure_ok h
      obtain ⟨rfl, rfl⟩ := run_push_ok h₂
      obtain ⟨rfl, rfl, hfill⟩ := run_promote_ok h₁
      have hb₀ := hb.promoting (parent ++ "Properties")
      have hsize := size_promoting b (parent ++ "Properties")
      obtain ⟨b₃, b₄, ids, m, hobj⟩ := makeObject_ok hb₀ (hb.sound.vacant_promoting _)
        (promoting_lookup b _)
        (fun b₃ hb₃ hsize₃ => properties_steps c _ _ _ s.properties b₃ hb₃ fun i hi => hsize₃ ▸ hi)
        hfill
      have hlt := Registry.node?_eq_some_lt hobj.node
      have hhas := (hprops _ _ _ _ hobj.ready hobj.built).mono hobj.le
      have hle₁ : (b₁.view ((b.promoting (parent ++ "Properties")).registry.nodes.size ≤ ·)).Le c
          ((b₁.pushed (referenceTo (parent ++ "Properties")
            (freeName b.usedNames (parent ++ "Properties")) none)).view (n ≤ ·)) := by
        refine b₁.view_le_pushed _ fun i _ hi => ?_
        rw [size_promoting] at hi
        omega
      refine .allOfOwn hempty hbs (m := referenceTo (parent ++ "Properties") _ none)
        ⟨Nat.le_trans hle (Nat.le_of_lt hlt), Registry.node?_push_self _ _⟩ rfl hobj.named
        ⟨hle, Registry.node?_push_of_some hobj.node⟩ hobj.bears hobj.kind
        (hobj.baseType.trans hobj.bears.symm) (hobj.properties ▸ hhas.mono hle₁)

/-- The constituents of a composite, as soon as its branches and properties stand for theirs. -/
theorem constituents_has {k : Combination} {parent : String} {s : Schema} {b b' : Builder}
    {ids : List ModelId} (hb : b.Ready c)
    (hone : ∀ {b₁ b₂ ids}, Ready c b₁ → run (branches c parent 1 [] s.oneOf) b₁ = (.ok ids, b₂) →
      HasBranches c (b₂.view (b₁.registry.nodes.size ≤ ·)) (c.distinctBranches [] s.oneOf) ids)
    (hany : ∀ {b₁ b₂ ids}, Ready c b₁ → run (branches c parent 1 [] s.anyOf) b₁ = (.ok ids, b₂) →
      HasBranches c (b₂.view (b₁.registry.nodes.size ≤ ·)) (c.distinctBranches [] s.anyOf) ids)
    (hall : ∀ {b₁ b₂ ids}, Ready c b₁ → run (branches c parent 1 [] s.allOf) b₁ = (.ok ids, b₂) →
      HasBranches c (b₂.view (b₁.registry.nodes.size ≤ ·)) (c.distinctBranches [] s.allOf) ids)
    (hprops : ∀ name b₁ b₂ ids, Ready c b₁ →
      run (properties c name s.required s.properties) b₁ = (.ok ids, b₂) →
      HasProperties c (b₂.view (b₁.registry.nodes.size ≤ ·)) s.required s.properties ids)
    (h : run (constituents k (branches c parent 1 [] s.oneOf) (branches c parent 1 [] s.anyOf)
      (branches c parent 1 [] s.allOf)
      (ownProperties parent s fun name => properties c name s.required s.properties)) b
      = (.ok ids, b')) :
    HasConstituents c (b'.view (b.registry.nodes.size ≤ ·)) k s ids := by
  cases k with
  | oneOf => exact .oneOf (hone hb h)
  | anyOf => exact .anyOf (hany hb h)
  | allOf =>
      obtain ⟨ids₁, b₁, h₁, h⟩ := run_bind_ok h
      obtain ⟨ids₂, b₂, h₂, h⟩ := run_bind_ok h
      obtain ⟨rfl, rfl⟩ := run_pure_ok h
      have hsteps := steps_of_run (branches_steps c parent 1 [] (b.registry.nodes.size ≤ ·) s.allOf b
        hb fun _ hi => hi) h₁
      have hb₁ := Steps.ready hsteps hb
      have hle := (Steps.grows hsteps hb.sound).size
      have hown : Steps c (b₁.registry.nodes.size ≤ ·) b₁ b₂ :=
        steps_of_run (ownProperties_steps hb₁ (fun _ hi => hi)
          (fun name => properties_addsAll c name s.required s.properties)
          fun b₃ name hb₃ hle₃ => properties_steps c name s.required _ s.properties b₃ hb₃
            fun i hi => Nat.le_trans hle₃ hi) h₂
      refine ownProperties_has hb₁ hprops h₂ hle ((hall hb h₁).mono ?_)
      -- what the own properties add leaves the branches as they are
      exact (Steps.grows hown hb₁.sound).view_le fun i hi hvisible => ⟨hvisible, Nat.not_le.2 hi⟩

mutual

/-- An occurrence stands for its schema. -/
theorem occurrence_occurs (c : Components) (name hint : String) :
    ∀ (s : SchemaOrRef) {b b' : Builder} {id : ModelId}, b.Ready c →
      run (occurrence c name hint s) b = (.ok id, b') →
      ∃ m, b'.registry.node? id = some m ∧ m.name = name ∧
        Occurs c (b'.view fun i => b.registry.nodes.size ≤ i ∧ i ≠ id) s id m
  | .ref path nullable, b, b', id, hb, h => by
      obtain ⟨target, htarget, rfl, rfl⟩ := run_occurrence_ref_ok h
      obtain ⟨t, ht⟩ := hb.lookup_target htarget
      exact ⟨_, Registry.node?_push_self _ _, rfl, .reference htarget ht rfl rfl rfl⟩
  | .inline s, b, b', id, hb, h => by
      by_cases hform : s.form.isPromoted
      · -- the schema gets a model of its own, and the occurrence refers to it
        obtain ⟨b₁, hfill, rfl, rfl⟩ := run_occurrence_promoted_ok hform h
        have hb₀ := hb.promoting hint
        have hn := promoting_lookup b hint
        obtain ⟨model, hmodel, -, hdef⟩ :=
          fill_defines c _ _ s hb₀ (hb.sound.vacant_promoting hint) (fun _ => hn) hfill
        have hsteps := steps_of_run
          (fill_promoting_steps c hint (fun _ => True) s hb fun _ _ => trivial) hfill
        have hgrows := Steps.grows hsteps hb₀.sound
        obtain ⟨_, hmodel', hname, -⟩ := hgrows.kept (promoting_node b hint)
        rw [hmodel] at hmodel'
        cases hmodel'
        have hlt := Registry.node?_eq_some_lt hmodel
        refine ⟨_, Registry.node?_push_self _ _, rfl, .promoted hform rfl (hgrows.lookup hn)
          ⟨⟨Nat.le_refl _, Nat.ne_of_lt hlt⟩, Registry.node?_push_of_some hmodel⟩ hname
          (hdef.mono (b₁.view_le_pushed _ fun i hi hi' => ?_) (Model.Alike.refl _))⟩
        rw [size_promoting] at hi'
        exact ⟨Nat.le_of_succ_le hi', Nat.ne_of_lt hi⟩
      · -- the occurrence itself is filled
        obtain ⟨rfl, hfill⟩ := run_occurrence_inPlace_ok hform h
        have hpush : Steps c (fun _ => True) b (b.pushed (Model.any name)) :=
          .single (.push (Model.any_blank name) (.inl rfl))
        have hb₁ := Steps.ready hpush hb
        have hv := hb.sound.vacant_pushed name
        obtain ⟨m, hm, -, hdef⟩ := fill_defines c _ _ s hb₁ hv (fun hp => absurd hp hform) hfill
        have hsteps := steps_of_run (fill_steps c b.registry.nodes.size hint (fun _ => True) s _ hb₁
          trivial (fun _ _ => trivial) hv fun hp => absurd hp hform) hfill
        obtain ⟨_, hm', hname, -⟩ :=
          (Steps.grows hsteps hb₁.sound).kept (Registry.node?_push_self b.registry _)
        rw [hm] at hm'
        cases hm'
        refine ⟨m, hm, hname, .inPlace hform
          (hdef.mono (b'.view_le_view fun i hi => ?_) (Model.Alike.refl _))⟩
        rw [size_pushed] at hi
        exact ⟨Nat.le_of_succ_le hi, Nat.ne_of_gt hi⟩

/-- A node that is filled says what its schema says, and admits null if the schema does. -/
theorem fill_defines (c : Components) (id : ModelId) (hint : String) :
    ∀ (s : SchemaObject SchemaOrRef) {b b' : Builder}, b.Ready c → b.Vacant id →
      (s.form.isPromoted → b.registry.lookup hint = some id) →
      run (fill c id hint s) b = (.ok (), b') →
      ∃ m, b'.registry.node? id = some m ∧ m.isNullable = s.nullable.getD false ∧
        Defines c (b'.view (b.registry.nodes.size ≤ ·)) s id m
  | s, b, b', hb, hv, hn, h => by
      rw [fill] at h
      obtain ⟨_, b₁, h₁, h⟩ := run_bind_ok h
      have hb₁' := run_update_ok h₁
      subst hb₁'
      have hdescribe : Steps c (· = id) b (b.updated id (describe s)) :=
        update_steps rfl fun m _ => .of_shape rfl rfl rfl rfl rfl rfl rfl
      have hb₁ := Steps.ready hdescribe hb
      have hv₁ : (b.updated id (describe s)).Vacant id := hv.updated fun _ => rfl
      have hsize : (b.updated id (describe s)).registry.nodes.size = b.registry.nodes.size :=
        size_updated _ _ _
      rw [← hsize]
      obtain ⟨⟨m₀, hm₀, -⟩, -⟩ := hv
      have hm₁ : (b.updated id (describe s)).registry.node? id = some (describe s m₀) :=
        Registry.node?_update_self hm₀
      -- one goal for each form of a schema
      split at h
      · next hform =>
          obtain ⟨b₂, b₃, ids, m, hobj⟩ := makeObject_ok hb₁ hv₁ (hn (by rw [hform]; rfl))
            (fun b₂ hb₂ hsize₂ => properties_steps c _ _ _ s.properties b₂ hb₂
              fun i hi => hsize₂ ▸ hi) h
          have hhas := properties_has c hint s.required s.properties hobj.ready hobj.built
          exact ⟨m, hobj.node, hobj.nullable hm₁, .object hform hobj.kind
            (hobj.baseType.trans hobj.bears.symm) (hobj.bears.symm ▸ hobj.named)
            (hobj.properties ▸ hhas.mono hobj.le)⟩
      · next k hform =>
          obtain ⟨b₂, b₃, ids, m, hcomp⟩ := makeComposite_ok hb₁ hv₁ (hn (by rw [hform]; rfl))
            (fun b₂ hb₂ hsize₂ => constituents_steps c k hint s hb₂ fun i hi => hsize₂ ▸ hi) h
          have hhas := constituents_has hcomp.ready
            (fun hb h => branches_has c hint 1 [] s.oneOf hb h)
            (fun hb h => branches_has c hint 1 [] s.anyOf hb h)
            (fun hb h => branches_has c hint 1 [] s.allOf hb h)
            (fun name _ _ _ hb h => properties_has c name s.required s.properties hb h) hcomp.built
          exact ⟨m, hcomp.node, hcomp.nullable hm₁, .composite hform hcomp.kind
            (hcomp.baseType.trans hcomp.bears.symm) (hcomp.bears.symm ▸ hcomp.named)
            (hcomp.properties ▸ hhas.mono hcomp.le)⟩
      · next hform =>
          have hb' := run_update_ok h
          subst hb'
          exact ⟨_, Registry.node?_update_self hm₁, rfl, .literal hform rfl rfl rfl⟩
      · next hform =>
          obtain ⟨m, hm, hnull, hk, hhas⟩ := makeContainer_ok hm₁ h _
          exact ⟨m, hm, hnull, .array hform hk hhas⟩
      · next value hform =>
          obtain ⟨m, hm, hnull, hk, hhas⟩ := makeContainer_ok hm₁ h _
          exact ⟨m, hm, hnull, .dictionary hform hk hhas⟩
      · next base hform =>
          have hb' := run_update_ok h
          subst hb'
          exact ⟨_, Registry.node?_update_self hm₁, rfl, .primitive hform rfl rfl⟩

/-- The nodes of properties stand for them. -/
theorem properties_has (c : Components) (parent : String) (required : List String) :
    ∀ (ps : List (String × SchemaOrRef)) {b b' : Builder} {ids : List ModelId}, b.Ready c →
      run (properties c parent required ps) b = (.ok ids, b') →
      HasProperties c (b'.view (b.registry.nodes.size ≤ ·)) required ps ids
  | [], b, b', ids, _, h => by
      rw [properties] at h
      obtain ⟨rfl, -⟩ := run_pure_ok h
      exact .nil
  | (field, s) :: rest, b, b', ids, hb, h => by
      rw [properties] at h
      obtain ⟨id, b₁, h₁, h⟩ := run_bind_ok h
      obtain ⟨_, b₂, h₂, h⟩ := run_bind_ok h
      obtain ⟨ids', b₃, h₃, h⟩ := run_bind_ok h
      obtain ⟨rfl, rfl⟩ := run_pure_ok h
      have hb₂' := run_update_ok h₂
      subst hb₂'
      obtain ⟨hge, hlt⟩ := occurrence_addsOne c _ _ s _ _ _ h₁
      obtain ⟨m, hm, hname, hocc⟩ := occurrence_occurs c field _ s hb h₁
      have hsteps₁ := steps_of_run (occurrence_steps c field (parent ++ Text.pascalCase field)
        (fun _ => True) s b hb fun _ _ => trivial) h₁
      have hb₁ := Steps.ready hsteps₁ hb
      have hflags : Steps c (fun i => i = id ∨ b₁.registry.nodes.size ≤ i) b₁
          (b₁.updated id (propertyFlags (required.contains field) s)) := by
        refine update_steps (.inl rfl) fun m _ => ?_
        cases s <;> exact .of_shape rfl rfl rfl rfl rfl rfl rfl
      have hb₂ := Steps.ready hflags hb₁
      have hrest : Steps c (b₁.registry.nodes.size ≤ ·) _ b₃ :=
        steps_of_run (properties_steps c parent required _ rest _ hb₂ fun i hi => by
          rwa [size_updated] at hi) h₃
      have hm₃ := (Steps.grows hrest hb₂.sound).node (Nat.not_le.2 hlt) (Registry.node?_update_self hm)
      have halike : m.Alike (propertyFlags (required.contains field) s m) := by
        cases s <;> exact ⟨rfl, rfl, rfl, rfl, rfl, rfl⟩
      -- the flags change only the node that is hidden, and the rest only adds nodes
      have hle : (b₁.view fun i => b.registry.nodes.size ≤ i ∧ i ≠ id).Le c
          (b₃.view (b.registry.nodes.size ≤ ·)) :=
        (Steps.grows (hflags.trans (Steps.mono hrest fun _ => .inr)) hb₁.sound).view_le
          fun i hi hvis => ⟨hvis.1, fun hfree => hfree.elim hvis.2 (Nat.not_le.2 hi)⟩
      have hhas := properties_has c parent required rest hb₂ h₃
      refine .cons ⟨hge, hm₃⟩ (halike.name.trans hname) (by cases s <;> rfl) (hocc.mono hle halike)
        (hhas.mono (b₃.view_le_view fun i hi => ?_))
      rw [size_updated] at hi
      exact Nat.le_trans (Nat.le_trans hge (Nat.le_of_lt hlt)) hi

/-- The nodes of branches stand for those that are distinct. -/
theorem branches_has (c : Components) (parent : String) (i : Nat) (seen : List SchemaOrRef) :
    ∀ (bs : List SchemaOrRef) {b b' : Builder} {ids : List ModelId}, b.Ready c →
      run (branches c parent i seen bs) b = (.ok ids, b') →
      HasBranches c (b'.view (b.registry.nodes.size ≤ ·)) (c.distinctBranches seen bs) ids
  | [], b, b', ids, _, h => by
      rw [branches] at h
      obtain ⟨rfl, -⟩ := run_pure_ok h
      exact .nil
  | s :: rest, b, b', ids, hb, h => by
      rw [branches] at h
      rw [Components.distinctBranches]
      split at h
      · next hseen =>
          obtain ⟨_, b₁, h₁, h⟩ := run_bind_ok h
          have hb₁' := run_note_ok h₁
          subst hb₁'
          rw [if_pos hseen]
          have hnote : Steps c (fun _ => False) b (b.noted (.droppingConstituent parent i)) :=
            .single (.note _)
          exact branches_has c parent (i + 1) seen rest (b := b.noted (.droppingConstituent parent i))
            (Steps.ready hnote hb) h
      · next hseen =>
          obtain ⟨name, b₁, h₁, h⟩ := run_bind_ok h
          obtain ⟨id, b₂, h₂, h⟩ := run_bind_ok h
          obtain ⟨ids', b₃, h₃, h⟩ := run_bind_ok h
          obtain ⟨rfl, rfl⟩ := run_pure_ok h
          -- the name of a branch is found without building anything
          have hb₁' : b = b₁ := by
            cases s with
            | ref => exact (run_resolving_ok h₁).2
            | inline => exact (run_pure_ok h₁).2
          subst hb₁'
          obtain ⟨hge, hlt⟩ := occurrence_addsOne c _ _ s _ _ _ h₂
          obtain ⟨m, hm, -, hocc⟩ := occurrence_occurs c name _ s hb h₂
          have hsteps := steps_of_run (occurrence_steps c name (parent ++ "Variant" ++ toString i)
            (fun _ => True) s b hb fun _ _ => trivial) h₂
          have hb₂ := Steps.ready hsteps hb
          have hrest := steps_of_run (branches_steps c parent (i + 1) (seen ++ [s])
            (b₂.registry.nodes.size ≤ ·) rest b₂ hb₂ fun _ hi => hi) h₃
          have hgrows := Steps.grows hrest hb₂.sound
          have hle : (b₂.view fun j => b.registry.nodes.size ≤ j ∧ j ≠ id).Le c
              (b₃.view (b.registry.nodes.size ≤ ·)) :=
            hgrows.view_le fun j hj hvis => ⟨hvis.1, Nat.not_le.2 hj⟩
          have hhas := branches_has c parent (i + 1) (seen ++ [s]) rest hb₂ h₃
          rw [if_neg hseen]
          exact .cons ⟨hge, hgrows.node (Nat.not_le.2 hlt) hm⟩
            (hocc.mono hle (Model.Alike.refl m))
            (hhas.mono (b₃.view_le_view fun j hj => Nat.le_trans (Nat.le_trans hge (Nat.le_of_lt hlt)) hj))

end

end Build

end OpenApi
