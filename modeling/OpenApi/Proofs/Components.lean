import OpenApi.Proofs.Building
import OpenApi.Proofs.Chains

set_option autoImplicit false

/-! # Adding the components

`Builder.Complete` is what holds once all components are added: each is represented by the model of its
name, which admits null just when the component is marked so, and each chain of references among them
comes to an end. `addComponents_complete` establishes it, and `Complete.grown` says that it is kept
whatever is added. The names of the components are taken to be distinct, as those of a map are. -/

namespace OpenApi

/-- Whether a schema, or a reference to one, is marked as admitting null. -/
def SchemaOrRef.marksNull : SchemaOrRef → Bool
  | .ref _ nullable => nullable.getD false
  | .inline s => s.nullable.getD false

namespace View

/-- The model under a name admits null just when a schema is marked so. -/
def Marks (v : View) (name : String) (s : SchemaOrRef) : Prop :=
  ∃ id m, v.named name id ∧ v.node id m ∧ m.isNullable = s.marksNull

theorem Marks.mono {c : Components} {v v' : View} (h : v.Le c v') {name : String} {s : SchemaOrRef}
    (hs : v.Marks name s) : v'.Marks name s := by
  obtain ⟨id, m, hname, hnode, hnull⟩ := hs
  obtain ⟨m', hnode', halike, -⟩ := h.node hnode
  exact ⟨id, m', h.named hname, hnode', halike.isNullable.trans hnull⟩

end View

namespace Builder

variable {c : Components} {b b' : Builder}

/-- Every component is represented, its model admits null just when the component is marked so, and
    the references among components lead to definitions. -/
structure Complete (c : Components) (b : Builder) : Prop where
  ready : b.Ready c
  components : ∀ {n : String} {s : SchemaOrRef}, (n, s) ∈ c.schemas →
    b.whole.IsComponent c n s
  marks : ∀ {n : String} {s : SchemaOrRef}, (n, s) ∈ c.schemas → b.whole.Marks n s
  chains : ∀ {n path : String} {nullable : Option Bool}, (n, .ref path nullable) ∈ c.schemas →
    ∃ e k, c.LeadsTo e k path

theorem Complete.grown (h : Steps c (b.registry.nodes.size ≤ ·) b b') (hb : b.Complete c) :
    b'.Complete c where
  ready := Steps.ready h hb.ready
  components hn := (hb.components hn).mono (Steps.whole_le h hb.ready.sound)
  marks hn := (hb.marks hn).mono (Steps.whole_le h hb.ready.sound)
  chains := hb.chains

/-- The nodes under some names, and those that are not there yet. -/
def Owned (b : Builder) (names : List String) (id : ModelId) : Prop :=
  (∃ n ∈ names, b.registry.lookup n = some id) ∨ b.registry.nodes.size ≤ id

theorem Grows.vacant {free : ModelId → Prop} (h : b.Grows free b') {id : ModelId} (hid : ¬ free id)
    (hv : b.Vacant id) : b'.Vacant id := by
  obtain ⟨⟨m, hm, hl⟩, hs⟩ := hv
  exact ⟨⟨m, h.node hid hm, hl⟩, (h.idle hid).trans hs⟩

section Others

variable {name : String} {names : List String} {id : ModelId}

/-- The node of another component is neither that of this one nor a new one. -/
theorem Sound.other (hb : b.Sound c) (hn : b.registry.lookup name = some id) (hname : name ∉ names)
    {n : String} {i : ModelId} (hmem : n ∈ names) (hi : b.registry.lookup n = some i) :
    ¬ (i = id ∨ b.registry.nodes.size ≤ i) := by
  rintro (rfl | hge)
  · exact hname (hb.lookup_inj hn hi ▸ hmem)
  · exact Nat.not_le.2 (hb.lookup_lt hi) hge

/-- What the other components own after this one is filled, they own before. -/
theorem Grows.owned (hb : b.Sound c) (hn : b.registry.lookup name = some id) (hname : name ∉ names)
    (h : b.Grows (fun i => i = id ∨ b.registry.nodes.size ≤ i) b')
    (hnames : ∀ n ∈ names, ∃ i, b.registry.lookup n = some i) {i : ModelId}
    (hi : b'.Owned names i) : b.Owned (name :: names) i ∧
      (i = id ∨ b.registry.nodes.size ≤ i → b'.registry.nodes.size ≤ i) := by
  rcases hi with ⟨n, hmem, hi⟩ | hge
  · obtain ⟨i', hi'⟩ := hnames n hmem
    rw [h.lookup hi'] at hi
    cases hi
    exact ⟨.inl ⟨n, List.mem_cons_of_mem _ hmem, hi'⟩,
      fun hfree => absurd hfree (hb.other hn hname hmem hi')⟩
  · exact ⟨.inr (Nat.le_trans h.size hge), fun _ => hge⟩

end Others

end Builder

namespace Build

open Builder View

variable {c : Components} {b b' : Builder}

/-! ## Declaring -/

/-- Declaring distinct free names registers them, and changes nothing else. -/
theorem declareAll_ok {entries : List (String × SchemaOrRef)} (hb : b.Sound c)
    (hnodup : (Entries.keys entries).Nodup) (hfree : ∀ n ∈ Entries.keys entries, n ∉ b.usedNames)
    (h : run (entries.forM fun entry => discard (declare entry.1)) b = (.ok (), b')) :
    Steps c (fun _ => False) b b' ∧
      ∀ n ∈ Entries.keys entries, ∃ id, b'.registry.lookup n = some id := by
  induction entries generalizing b with
  | nil =>
      cases h
      exact ⟨.refl, by simp [Entries.keys]⟩
  | cons entry rest ih =>
      obtain ⟨n, s⟩ := entry
      simp only [Entries.keys, List.map_cons, List.nodup_cons, List.forall_mem_cons] at hnodup hfree
      have hstep : Steps c (fun _ => False) b (b.declared n) := .single (.declare hfree.1)
      have hdeclared := Steps.sound hstep hb
      have hrest : run (rest.forM fun entry => discard (declare entry.1)) (b.declared n)
          = (.ok (), b') := h
      have hstill : ∀ n' ∈ Entries.keys rest, n' ∉ (b.declared n).usedNames := by
        intro n' hn' hused
        rcases List.mem_insert_iff.1 hused with rfl | hused
        · exact hnodup.1 hn'
        · exact hfree.2 n' hn' hused
      obtain ⟨hsteps, hnames⟩ := ih hdeclared hnodup.2 hstill hrest
      refine ⟨hstep.trans hsteps, ?_⟩
      rw [Entries.keys, List.map_cons, List.forall_mem_cons]
      exact ⟨⟨_, (Steps.grows hsteps hdeclared).lookup (Registry.lookup_register_self _ _ _)⟩,
        hnames⟩

/-- Names that are declared one after the other are registered in their order, for one new node each. -/
theorem declareAll_named (entries : List (String × SchemaOrRef)) (b : Builder)
    (hnodup : (Entries.keys entries).Nodup)
    (hfree : ∀ n ∈ Entries.keys entries, n ∉ Entries.keys b.registry.named) :
    ∃ b', run (entries.forM fun entry => discard (declare entry.1)) b = (.ok (), b') ∧
      b'.registry.named
        = b.registry.named ++ (Entries.keys entries).zipIdx b.registry.nodes.size := by
  induction entries generalizing b with
  | nil => exact ⟨b, rfl, (List.append_nil _).symm⟩
  | cons entry rest ih =>
      obtain ⟨n, s⟩ := entry
      simp only [Entries.keys, List.map_cons, List.nodup_cons, List.forall_mem_cons] at hnodup hfree
      have hnamed : (b.declared n).registry.named
          = b.registry.named ++ [(n, b.registry.nodes.size)] := Entries.put_of_not_mem hfree.1
      have hsize : (b.declared n).registry.nodes.size = b.registry.nodes.size + 1 :=
        Registry.size_push _ _
      have hstill : ∀ n' ∈ Entries.keys rest, n' ∉ Entries.keys (b.declared n).registry.named := by
        intro n' hn' hmem
        rw [hnamed, Entries.keys, List.map_append, List.mem_append] at hmem
        rcases hmem with hold | hnew
        · exact hfree.2 n' hn' hold
        · rw [List.map_singleton, List.mem_singleton] at hnew
          subst hnew
          exact hnodup.1 hn'
      obtain ⟨b', hrun, hb'⟩ := ih (b.declared n) hnodup.2 hstill
      refine ⟨b', hrun, ?_⟩
      rw [hb', hnamed, hsize, List.append_assoc]
      rfl

/-- Declared on an empty graph, the components are all there and none is filled. -/
theorem declareAll_components (hnodup : (Entries.keys c.schemas).Nodup)
    (h : run (c.schemas.forM fun entry => discard (declare entry.1)) {} = (.ok (), b)) :
    Steps c (fun _ => False) {} b ∧ b.Ready c ∧
      ∀ n ∈ Entries.keys c.schemas, ∃ id, b.registry.lookup n = some id ∧ b.Vacant id := by
  have hempty := Sound.empty c
  obtain ⟨hdeclare, hnames⟩ := declareAll_ok hempty hnodup (fun _ _ => List.not_mem_nil) h
  have hb : b.Ready c := ⟨Steps.sound hdeclare hempty, hnames⟩
  refine ⟨hdeclare, hb, fun n hn => ?_⟩
  obtain ⟨id, hid⟩ := hnames n hn
  obtain ⟨m, hm, -⟩ := hb.sound.index hid
  have hgrows := Steps.grows hdeclare hempty
  exact ⟨id, hid, ⟨m, hm, hgrows.link hm (Nat.zero_le id)⟩, hgrows.idle fun hf => hf⟩

/-! ## Filling -/

/-- The node of a component is made an alias, or is filled. -/
theorem fillComponent_ok {id : ModelId} {name : String} {s : SchemaOrRef} (hb : b.Ready c)
    (hv : b.Vacant id) (hn : b.registry.lookup name = some id) (hmem : (name, s) ∈ c.schemas)
    (h : run (fillComponent c id name s) b = (.ok (), b')) :
    Steps c (fun i => i = id ∨ b.registry.nodes.size ≤ i) b b' ∧
      (b'.view fun i => i = id ∨ b.registry.nodes.size ≤ i).IsComponent c name s ∧
      (b'.view fun i => i = id ∨ b.registry.nodes.size ≤ i).Marks name s ∧
      ∀ path nullable, s = .ref path nullable → ∃ e k, c.LeadsTo e k path := by
  obtain ⟨m, hm, hname⟩ := hb.sound.index hn
  cases s with
  | ref path nullable =>
      rw [fillComponent] at h
      obtain ⟨target, b₁, h₁, h⟩ := run_bind_ok h
      obtain ⟨htarget, rfl⟩ := run_resolving_ok h₁
      obtain ⟨e, b₂, h₂, h⟩ := run_bind_ok h
      obtain ⟨hend, rfl⟩ := run_resolving_ok h₂
      obtain rfl := run_update_ok h
      obtain ⟨k, hk⟩ := Components.canonicalName_eq_ok_iff.1 hend
      have hm' := Registry.node?_update_self (f := fun m =>
        { m with kind := .reference, baseType := target, isNullable := nullable.getD false }) hm
      refine ⟨update_steps (.inl rfl) fun m' _ => ?_, ?_, ⟨id, _, hn, ⟨.inl rfl, hm'⟩, rfl⟩, ?_⟩
      · exact ⟨rfl, rfl, rfl, rfl, fun _ hp => .inl hp, .inr ⟨hv.source, .inr ⟨rfl,
          hb.lookup_target htarget, name, hn, path, nullable, hmem, htarget⟩⟩⟩
      · exact .reference hn ⟨.inl rfl, hm'⟩ htarget rfl rfl rfl
      · rintro _ _ ⟨⟩
        exact ⟨e, k, hk⟩
  | inline s =>
      have hsteps := steps_of_run (fill_steps c id name
        (fun i => i = id ∨ b.registry.nodes.size ≤ i) s b hb (.inl rfl) (fun _ => .inr) hv
        fun _ => hn) h
      obtain ⟨m', hm', hnull, hdef⟩ := fill_defines c id name s hb hv (fun _ => hn) h
      obtain ⟨_, hm'', hname', -⟩ := (Steps.grows hsteps hb.sound).kept hm
      rw [hm'] at hm''
      cases hm''
      have hn' := (Steps.grows hsteps hb.sound).lookup hn
      refine ⟨hsteps, .definition hn' ⟨.inl rfl, hm'⟩ (hname'.trans hname)
        (hdef.mono (b'.view_le_view fun i => .inr) (Model.Alike.refl _)),
        ⟨id, m', hn', ⟨.inl rfl, hm'⟩, hnull⟩, ?_⟩
      rintro _ _ ⟨⟩

/-- Filling components that are declared and vacant makes each of them represented. -/
theorem fillComponents_ok {entries : List (String × SchemaOrRef)} (hb : b.Ready c)
    (hnodup : (Entries.keys entries).Nodup) (hmem : ∀ e ∈ entries, e ∈ c.schemas)
    (hvacant : ∀ n ∈ Entries.keys entries, ∃ id, b.registry.lookup n = some id ∧ b.Vacant id)
    (h : run (fillComponents c entries) b = (.ok (), b')) :
    Steps c (b.Owned (Entries.keys entries)) b b' ∧
      ∀ e ∈ entries, (b'.view (b.Owned (Entries.keys entries))).IsComponent c e.1 e.2 ∧
        (b'.view (b.Owned (Entries.keys entries))).Marks e.1 e.2 ∧
        ∀ path nullable, e.2 = .ref path nullable → ∃ e k, c.LeadsTo e k path := by
  induction entries generalizing b with
  | nil =>
      cases h
      exact ⟨.refl, by simp⟩
  | cons entry rest ih =>
      obtain ⟨n, s⟩ := entry
      rw [fillComponents] at h
      obtain ⟨r, b₁, h₁, h⟩ := run_bind_ok h
      cases h₁
      simp only [Entries.keys, List.map_cons, List.nodup_cons, List.forall_mem_cons]
        at hnodup hmem hvacant
      obtain ⟨⟨id, hn, hv⟩, hvacant⟩ := hvacant
      simp only [hn] at h
      obtain ⟨_, b₁, h₁, h⟩ := run_bind_ok h
      obtain rfl := run_note_ok h₁
      obtain ⟨_, b₂, h₂, h⟩ := run_bind_ok h
      have hnote : Steps c (fun i => i = id ∨ b.registry.nodes.size ≤ i) b (b.noted (.building n)) :=
        .single (.note _)
      obtain ⟨hfill, hhead, hmarks, hchain⟩ :=
        fillComponent_ok (b := b.noted (.building n)) (Steps.ready hnote hb) ⟨hv.node, hv.source⟩ hn
          hmem.1 h₂
      have hsteps := hnote.trans hfill
      have hgrows := Steps.grows hsteps hb.sound
      -- the nodes of the other components are not touched by this one
      have hvacant₂ : ∀ n' ∈ Entries.keys rest, ∃ i, b₂.registry.lookup n' = some i ∧ b₂.Vacant i := by
        intro n' hn'
        obtain ⟨i, hi, hvi⟩ := hvacant n' hn'
        exact ⟨i, hgrows.lookup hi, hgrows.vacant (hb.sound.other hn hnodup.1 hn' hi) hvi⟩
      obtain ⟨hrest, hall⟩ := ih (Steps.ready hsteps hb) hnodup.2 hmem.2 hvacant₂ h
      have howned : ∀ i, b₂.Owned (Entries.keys rest) i → b.Owned (n :: Entries.keys rest) i ∧
          (i = id ∨ b.registry.nodes.size ≤ i → b₂.registry.nodes.size ≤ i) := fun i =>
        hgrows.owned hb.sound hn hnodup.1 fun n' hn' => (hvacant n' hn').imp fun _ hi => hi.1
      have hhere : ∀ i, i = id ∨ b.registry.nodes.size ≤ i → b.Owned (n :: Entries.keys rest) i := by
        rintro i (rfl | hi)
        · exact .inl ⟨n, List.mem_cons_self, hn⟩
        · exact .inr hi
      refine ⟨(Steps.mono hsteps hhere).trans (Steps.mono hrest fun i hi => (howned i hi).1), ?_⟩
      rw [List.forall_mem_cons]
      have hle : (b₂.view fun i => i = id ∨ b.registry.nodes.size ≤ i).Le c
          (b'.view (b.Owned (n :: Entries.keys rest))) :=
        (Steps.grows hrest (Steps.sound hsteps hb.sound)).view_le fun i hlt hi =>
          ⟨hhere i hi, fun hf => Nat.not_le.2 hlt ((howned i hf).2 hi)⟩
      have hle' : (b'.view (b₂.Owned (Entries.keys rest))).Le c
          (b'.view (b.Owned (n :: Entries.keys rest))) :=
        b'.view_le_view fun i hi => (howned i hi).1
      refine ⟨⟨hhead.mono hle, hmarks.mono hle, hchain⟩, fun e he => ?_⟩
      obtain ⟨hcomponent, hmarks', hchain'⟩ := hall e he
      exact ⟨hcomponent.mono hle', hmarks'.mono hle', hchain'⟩

/-- Adding the components represents them all. Their names are distinct, as keys of a map are. -/
theorem addComponents_complete (hnodup : (Entries.keys c.schemas).Nodup)
    (h : run (addComponents c) {} = (.ok (), b)) :
    Steps c (fun _ => True) {} b ∧ b.Complete c := by
  obtain ⟨_, b₁, h₁, h₂⟩ := run_bind_ok h
  obtain ⟨hdeclare, hb₁, hvacant⟩ := declareAll_components hnodup h₁
  obtain ⟨hfill, hall⟩ := fillComponents_ok hb₁ hnodup (fun _ he => he) hvacant h₂
  refine ⟨(Steps.mono hdeclare fun _ _ => trivial).trans (Steps.mono hfill fun _ _ => trivial), ?_⟩
  have hle : (b.view (b₁.Owned (Entries.keys c.schemas))).Le c b.whole :=
    b.view_le_view fun _ _ => trivial
  exact ⟨Steps.ready hfill hb₁, fun hn => (hall _ hn).1.mono hle,
    fun hn => (hall _ hn).2.1.mono hle, fun hn => (hall _ hn).2.2 _ _ rfl⟩

end Build

end OpenApi
