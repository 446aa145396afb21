import OpenApi.Proofs.NameIndex
import OpenApi.Proofs.Reading

set_option autoImplicit false

/-! # What is added disturbs nothing

`Builder.Called` are the graphs that calls leave behind, whether they succeed or fail. Adding a schema to
any of them leaves what was there as it was: `Builder.Undisturbed` says so of the nodes, of the index
of names and of the elements that wait. The node that is answered for an occurrence is
`Registry.Private`. Nothing in the graph refers to it, so that the one who asked for it may set on it
what it likes: no other node is different, and none leads elsewhere
(`Private.canonical_update`). -/

namespace OpenApi

/-- Where two steps agree on the points that a chain passes, they lead to the same end. -/
theorem chase_congr {α : Type} [DecidableEq α] {step step' : α → Option α} {P : α → Prop}
    (hagree : ∀ a, P a → step' a = step a) (hstep : ∀ a b, step a = some b → P b) {fresh : List α}
    {a : α} (ha : P a) : chase step' fresh a = chase step fresh a := by
  fun_induction chase step fresh a with
  | case1 fresh a hnone => exact chase_of_step_eq_none ((hagree a ha).trans hnone)
  | case2 fresh a b hb hmem ih =>
      rw [chase, hagree a ha, hb]
      simp only [hmem, if_true]
      exact ih (hstep a b hb)
  | case3 fresh a b hb hmem =>
      rw [chase, hagree a ha, hb]
      simp only [hmem, if_false]

namespace Registry

variable {r : Registry} {id : ModelId}

/-! ## Nodes that no other node sees -/

/-- Nothing in the graph refers to the node: it is registered under no name, and it is no part of any
    node. -/
structure Private (r : Registry) (id : ModelId) : Prop where
  there : id < r.nodes.size
  unnamed : ∀ n, (n, id) ∉ r.named
  unshared : ∀ i m, r.node? i = some m →
    id ∉ m.properties ∧ m.link ≠ some id ∧ id ∉ m.composedModels ∧ id ∉ m.composedPrimitives

theorem Private.lookup_ne (h : r.Private id) (n : String) : r.lookup n ≠ some id :=
  fun hn => h.unnamed n (Entries.mem_of_get? hn)

/-- What is set on a private node changes nothing about where another one leads. -/
theorem Private.canonical_update (h : r.Private id) (f : Model → Model) {i : ModelId} (hi : i ≠ id) :
    (r.update id f).canonical i = r.canonical i := by
  have hagree : ∀ j, j ≠ id → (r.update id f).next? j = r.next? j := by
    intro j hj
    have hnode : (r.update id f).nodes[j]? = r.nodes[j]? := node?_update_of_ne hj f
    unfold next? Nodes.next?
    rw [hnode]
    rfl
  have hstep : ∀ j t, r.next? j = some t → t ≠ id := by
    rintro j _ ht rfl
    obtain ⟨m, -, -, hl, -⟩ := next?_eq_some_iff.1 ht
    exact h.lookup_ne _ hl
  have hchase : chase (r.update id f).next? ((List.range r.nodes.size).erase i) i =
      chase r.next? ((List.range r.nodes.size).erase i) i := chase_congr hagree hstep hi
  unfold canonical Nodes.canonical
  rw [show (r.update id f).nodes.next? (r.update id f).lookup i = r.nodes.next? r.lookup i from
    hagree i hi, size_update]
  split
  · rfl
  · exact hchase

/-- The content of a new node may be settled once it is added. -/
theorem update_push (r : Registry) (m : Model) (f : Model → Model) :
    (r.push m).2.update r.nodes.size f = (r.push (f m)).2 := by
  unfold update push Nodes.update
  congr 1
  refine Array.ext_getElem? fun i => ?_
  rw [Array.getElem?_modify, Array.getElem?_push, Array.getElem?_push]
  split
  · next hi => rw [if_pos hi.symm, if_pos hi.symm, Option.map_some]
  · next hi => rw [if_neg (Ne.symm hi), if_neg (Ne.symm hi)]

end Registry

namespace Builder

variable {c : Components} {free : ModelId → Prop} {b b' : Builder}

/-! ## Graphs that calls leave behind -/

/-- The graphs under construction that calls leave behind, whether they succeed or fail, from the moment
    on when the components were to be added. -/
inductive Called (c : Components) : Builder → Prop
  | addComponents {b : Builder} {r : Except BuildError Unit} :
      Build.run (Build.addComponents c) {} = (r, b) → Called c b
  | note {b : Builder} (e : Event) : Called c b → Called c (b.noted e)
  | occurrence {b b' : Builder} {name hint : String} {s : SchemaOrRef}
      {r : Except BuildError ModelId} :
      Called c b → Build.run (Build.occurrence c name hint s) b = (r, b') → Called c b'
  | linkTarget {b b' : Builder} {hint : String} {s : SchemaOrRef} {r : Except BuildError ModelId} :
      Called c b → Build.run (Build.linkTarget c hint s) b = (r, b') → Called c b'
  | collect {b b' : Builder} {d : Document} {options : Options}
      {r : Except BuildError (List Operation)} :
      Called c b → d.componentsOrNone = c → Build.run (Build.collect d options) b = (r, b') →
      Called c b'
  | linkAll {b b' : Builder} {r : Except BuildError Unit} :
      Called c b → Build.run (Build.linkAll c) b = (r, b') → Called c b'

/-- What holds of all of them: they are sound, the components are declared, and links stay within the
    graph. -/
structure Intact (c : Components) (b : Builder) : Prop where
  ready : b.Ready c
  link : ∀ {id l : ModelId} {m : Model}, b.registry.node? id = some m → m.link = some l →
    l < b.registry.nodes.size

theorem Intact.inBounds (hb : b.Intact c) : b.registry.InBounds where
  lookup _ _ h := hb.ready.sound.lookup_lt h
  link _ _ _ hm hl := hb.link hm hl

theorem Grows.link_lt (h : b.Grows free b')
    (hb : ∀ {id l : ModelId} {m : Model}, b.registry.node? id = some m → m.link = some l →
      l < b.registry.nodes.size) {id l : ModelId} {m : Model}
    (hm : b'.registry.node? id = some m) (hl : m.link = some l) : l < b'.registry.nodes.size := by
  by_cases hid : id < b.registry.nodes.size
  · obtain ⟨m₀, hm₀⟩ := Registry.exists_node?_of_lt hid
    obtain ⟨m', hm', -, hlink⟩ := h.kept hm₀
    rw [hm] at hm'
    cases hm'
    exact Nat.lt_of_lt_of_le (hb hm₀ (hlink.symm.trans hl)) h.size
  · rw [h.link hm (Nat.not_lt.1 hid)] at hl
    cases hl

/-- Elementary changes keep a graph intact. -/
theorem Intact.steps (h : Steps c free b b') (hb : b.Intact c) : b'.Intact c where
  ready := Steps.ready h hb.ready
  link := (Steps.grows h hb.ready.sound).link_lt hb.link

theorem Ready.dropSource (hb : b.Ready c) (id : ModelId) : (b.dropSource id).Ready c :=
  ⟨hb.sound.dropSource id, hb.declared⟩

/-- A container may be linked to any node that is there. -/
theorem Intact.linked (hb : b.Intact c) {id l : ModelId} (hs : b.source? id = none)
    (hl : l < b.registry.nodes.size) : (b.linked id l).Intact c where
  ready := ⟨hb.ready.sound.linked hs, hb.ready.declared⟩
  link := by
    intro i l' m' hm' hl'
    rw [size_linked]
    obtain ⟨m, link, hm, rfl, ⟨-, rfl⟩ | ⟨-, rfl⟩⟩ := node?_linked hm'
    · exact hb.link hm hl'
    · cases hl'
      exact hl

end Builder

namespace Build

open Builder

variable {α β : Type} {c : Components} {b b' : Builder}

/-! ## Steps that fail -/

/-- The step makes elementary changes, whether it succeeds or fails. -/
def Elementary (c : Components) (m : Build α) : Prop :=
  ∀ b : Builder, b.Ready c → Steps c (fun _ => True) b (run m b).2

theorem Elementary.pure (a : α) : Elementary c (Pure.pure a : Build α) := fun _ _ => .refl

theorem Elementary.fail (e : BuildError) : Elementary c (Build.fail e : Build α) := fun _ _ => .refl

theorem Elementary.graph : Elementary c Build.graph := fun _ _ => .refl

theorem Elementary.note (e : Event) : Elementary c (Build.note e) := fun _ _ => .single (.note e)

theorem Elementary.resolving (r : Except ResolveError α) : Elementary c (Build.resolving r) :=
  fun _ _ => resolving_steps r

theorem Elementary.bind {m : Build α} {f : α → Build β} (hm : Elementary c m)
    (hf : ∀ a, Elementary c (f a)) : Elementary c (m >>= f) := by
  intro b hb
  refine steps_bind (hm b hb) fun a b₁ h => hf a b₁ ?_
  exact Steps.ready (steps_of_run (hm b hb) h) hb

theorem Elementary.mapM {f : α → Build β} (hf : ∀ a, Elementary c (f a)) (as : List α) :
    Elementary c (as.mapM f) := by
  induction as with
  | nil =>
      rw [List.mapM_nil]
      exact .pure _
  | cons a as ih =>
      rw [List.mapM_cons]
      exact .bind (hf a) fun _ => .bind ih fun _ => .pure _

theorem occurrenceOrAny_elementary (name hint : String) (s : Option SchemaOrRef) :
    Elementary c (occurrenceOrAny c name hint s) := by
  intro b hb
  cases s with
  | none => exact .single (.push (Model.any_blank name) (.inl rfl))
  | some s => exact occurrence_steps c name hint _ s b hb fun _ _ => trivial

/-! ## Operations -/

theorem parameter_elementary (scope : String) (p : ParameterSpec) :
    Elementary c (parameter c scope p) := by
  refine .bind (occurrenceOrAny_elementary _ _ _) fun id => .bind (fun b _ => ?_) fun _ =>
    .bind .graph fun _ => .pure _
  exact update_steps trivial fun _ _ => .of_shape rfl rfl rfl rfl rfl rfl rfl

theorem body_elementary (scope : String) (r : Option (RefOr RequestBody)) :
    Elementary c (body c scope r) := by
  cases r with
  | none => exact .pure _
  | some r =>
      refine .bind (.resolving _) fun spec => ?_
      unfold bodyOf
      split
      · exact .bind (.note _) fun _ => .pure _
      · refine .bind (occurrenceOrAny_elementary _ _ _) fun id => .bind (fun b _ => ?_) fun _ =>
          .pure _
        exact update_steps trivial fun _ _ => .of_shape rfl rfl rfl rfl rfl rfl rfl

theorem response_elementary (scope operationId key : String) (r : RefOr ResponseSpec) :
    Elementary c (response c scope operationId key r) := by
  unfold response
  split
  · exact .fail _
  · refine .bind (.resolving _) fun spec => .bind ?_ fun _ => .pure _
    unfold responseModel
    split
    · exact .pure _
    · exact .bind (occurrenceOrAny_elementary _ _ _) fun _ => .pure _

theorem operation_elementary (options : Options) (path : String) (method : Method)
    (shared : List (RefOr ParameterSpec)) (op : OperationSpec) :
    Elementary c (operation c options path method shared op) :=
  .bind (.resolving _) fun _ => .bind (.mapM (parameter_elementary _) _) fun _ =>
    .bind (body_elementary _ _) fun _ =>
      .bind (.mapM (fun _ => response_elementary _ _ _ _) _) fun _ =>
        .bind (.note _) fun _ => .pure _

theorem collect_elementary (d : Document) (options : Options) :
    Elementary d.componentsOrNone (collect d options) :=
  .bind (.mapM (fun _ => .mapM (fun _ => operation_elementary _ _ _ _ _) _) _) fun _ => .pure _

/-! ## Components -/

theorem fillComponent_steps {id : ModelId} {name : String} {s : SchemaOrRef} (hb : b.Ready c)
    (hv : b.Vacant id) (hn : b.registry.lookup name = some id) (hmem : (name, s) ∈ c.schemas) :
    Steps c (fun i => i = id ∨ b.registry.nodes.size ≤ i) b (run (fillComponent c id name s) b).2 := by
  cases s with
  | ref path nullable =>
      rw [fillComponent]
      refine steps_bind (resolving_steps _) fun target b₁ h₁ => ?_
      obtain ⟨htarget, rfl⟩ := run_resolving_ok h₁
      refine steps_bind (resolving_steps _) fun _ b₂ h₂ => ?_
      obtain ⟨-, rfl⟩ := run_resolving_ok h₂
      refine update_steps (.inl rfl) fun m _ => ?_
      exact ⟨rfl, rfl, rfl, rfl, fun _ hp => .inl hp, .inr ⟨hv.source, .inr ⟨rfl,
        hb.lookup_target htarget, name, hn, path, nullable, hmem, htarget⟩⟩⟩
  | inline s => exact fill_steps c id name _ s b hb (.inl rfl) (fun _ => .inr) hv fun _ => hn

theorem fillComponents_steps {entries : List (String × SchemaOrRef)} (hb : b.Ready c)
    (hnodup : (Entries.keys entries).Nodup) (hmem : ∀ e ∈ entries, e ∈ c.schemas)
    (hvacant : ∀ n ∈ Entries.keys entries, ∃ id, b.registry.lookup n = some id ∧ b.Vacant id) :
    Steps c (fun _ => True) b (run (fillComponents c entries) b).2 := by
  induction entries generalizing b with
  | nil => exact .refl
  | cons entry rest ih =>
      obtain ⟨n, s⟩ := entry
      simp only [Entries.keys, List.map_cons, List.nodup_cons, List.forall_mem_cons]
        at hnodup hmem hvacant
      obtain ⟨⟨id, hn, hv⟩, hvacant⟩ := hvacant
      have hnote : Steps c (fun i => i = id ∨ b.registry.nodes.size ≤ i) b (b.noted (.building n)) :=
        .single (.note _)
      have hfill := fillComponent_steps (b := b.noted (.building n)) (Steps.ready hnote hb)
        ⟨hv.node, hv.source⟩ hn hmem.1
      rw [fillComponents]
      refine steps_bind .refl fun r b₁ h₁ => ?_
      cases h₁
      simp only [hn]
      refine steps_bind (.single (.note _)) fun _ b₁ h₁ => ?_
      obtain rfl := run_note_ok h₁
      refine steps_bind (Steps.mono hfill fun _ _ => trivial) fun _ b₂ h₂ => ?_
      -- the nodes of the other components are still vacant
      have hsteps := hnote.trans (steps_of_run hfill h₂)
      have hgrows := Steps.grows hsteps hb.sound
      refine ih (Steps.ready hsteps hb) hnodup.2 hmem.2 fun n' hn' => ?_
      obtain ⟨i, hi, hvi⟩ := hvacant n' hn'
      exact ⟨i, hgrows.lookup hi, hgrows.vacant (hb.sound.other hn hnodup.1 hn' hi) hvi⟩

/-- Adding the components leaves an intact graph behind. All of them are declared before one can fail. -/
theorem addComponents_intact (hc : (Entries.keys c.schemas).Nodup) :
    (run (addComponents c) {}).2.Intact c := by
  obtain ⟨b₁, hdeclare, -⟩ := declareAll_named c.schemas {} hc fun _ _ => List.not_mem_nil
  obtain ⟨hdeclared, hb₁, hvacant⟩ := declareAll_components hc hdeclare
  have hgrows := Steps.grows hdeclared (Sound.empty c)
  have hintact : b₁.Intact c := ⟨hb₁, fun hm hl => by
    rw [hgrows.link hm (Nat.zero_le _)] at hl
    cases hl⟩
  rw [addComponents, run_bind_of_ok hdeclare]
  exact hintact.steps (fillComponents_steps hb₁ hc (fun _ he => he) hvacant)

/-! ## Links -/

theorem linkTarget_lt {hint : String} {s : SchemaOrRef} {l : ModelId} (hb : b.Intact c)
    (h : run (linkTarget c hint s) b = (.ok l, b')) : l < b'.registry.nodes.size := by
  cases s with
  | ref path nullable =>
      obtain ⟨target, t, -, ht, rfl, rfl⟩ := run_linkTarget_ref_ok h
      exact hb.inBounds.canonical_lt (hb.ready.sound.lookup_lt ht)
  | inline s =>
      obtain ⟨-, m, hm, -⟩ := linkTarget_inline_ok hb.ready h
      exact Registry.node?_eq_some_lt hm

theorem elements_steps (source : ElementSource) (hb : b.Ready c) :
    Steps c (b.registry.nodes.size ≤ ·) b (run (elements c source) b).2 := by
  obtain ⟨hint, _ | s⟩ := source
  · exact steps_bind (.single (.push (Model.any_blank hint) (.inl rfl))) fun _ _ _ => .refl
  · refine steps_bind .refl fun r b₁ h₁ => ?_
    cases h₁
    exact steps_bind (linkTarget_steps c hint s hb fun _ hi => hi) fun _ _ _ =>
      steps_bind .refl fun _ _ _ => .refl

theorem elements_lt {source : ElementSource} {l : ModelId} {added : List ModelId}
    (hb : b.Intact c) (h : run (elements c source) b = (.ok (l, added), b')) :
    l < b'.registry.nodes.size := by
  rcases run_elements_ok h with ⟨-, rfl, -, rfl⟩ | ⟨s, -, hrun, -⟩
  · exact (push_addsOne _ _ _ _ rfl).2
  · exact linkTarget_lt hb hrun

/-- The visit of a node leaves an intact graph behind. -/
theorem linkNode_intact (hb : b.Intact c) (id : ModelId) : (run (linkNode c id) b).2.Intact c := by
  by_cases hid : b.Unlinked id
  · obtain ⟨m, hm, hk, hl⟩ := hid
    have hdrop : (b.dropSource id).Intact c := ⟨hb.ready.dropSource id, hb.link⟩
    have hsteps := elements_steps (c := c) ((b.source? id).getD ⟨"value", none⟩) hdrop.ready
    have htake : run (takeSource id) b = (.ok (b.source? id), b.dropSource id) := rfl
    unfold linkNode
    rw [run_bind_of_ok (run_graph b), if_pos (by simp [Registry.holds, hm, hk, hl]),
      run_bind_of_ok htake, run_bind]
    rcases hr : run (elements c ((b.source? id).getD ⟨"value", none⟩)) (b.dropSource id)
      with ⟨e | ⟨l, added⟩, b₁⟩
    · exact hdrop.steps (steps_of_run hsteps hr)
    · have hgrown := steps_of_run hsteps hr
      have hidle : b₁.source? id = none := by
        rw [(Steps.grows hgrown hdrop.ready.sound).idle
          (Nat.not_le.2 (Registry.node?_eq_some_lt hm)), source?_dropSource, if_pos rfl]
      exact (hdrop.steps hgrown).linked hidle (elements_lt hdrop hr)
  · rw [run_linkNode_of_not_unlinked hid]
    exact hb

theorem linkFrom_intact (unvisited stack : List ModelId) (hb : b.Intact c) :
    (linkFrom c unvisited stack b).2.Intact c := by
  fun_induction linkFrom c unvisited stack b with
  | case1 => exact hb
  | case2 unvisited stack b id stack' hnext e b₁ hr =>
      have hnode := linkNode_intact hb id
      rwa [hr] at hnode
  | case3 unvisited stack b id stack' hnext added b₁ hr ih =>
      have hnode := linkNode_intact hb id
      rw [hr] at hnode
      exact ih hnode

/-! ## The node of an occurrence -/

/-- A schema that is not promoted is put into its node, which gets no parts by that. -/
theorem fill_inPlace {hint : String} {s : Schema} {m : Model} (hm : m.Blank)
    (hform : ¬ s.form.isPromoted = true)
    (h : run (fill c b.registry.nodes.size hint s) (b.pushed m) = (.ok (), b')) :
    ∃ m', Model.Blank m' ∧ b'.registry = (b.registry.push m').2 := by
  have hupdated : ∀ (m : Model) (f : Model → Model) (b₁ : Builder),
      b₁.registry = (b.registry.push m).2 →
      (b₁.updated b.registry.nodes.size f).registry = (b.registry.push (f m)).2 := by
    intro m f b₁ h₁
    rw [updated, h₁, Registry.update_push]
  rw [fill] at h
  obtain ⟨_, b₁, h₁, h⟩ := run_bind_ok h
  obtain rfl := run_update_ok h₁
  have hdescribed := hupdated m (describe s) (b.pushed m) rfl
  have hkind : ∀ kind base, Model.Blank { describe s m with kind := kind, baseType := base } :=
    fun _ _ => ⟨hm.properties, hm.link, hm.composedModels, hm.composedPrimitives⟩
  split at h
  · next hobject => exact absurd (by rw [hobject]; rfl) hform
  · next hcomposite => exact absurd (by rw [hcomposite]; rfl) hform
  · obtain rfl := run_update_ok h
    exact ⟨makeEnum s (describe s m), ⟨hm.properties, hm.link, hm.composedModels,
      hm.composedPrimitives⟩, hupdated _ _ _ hdescribed⟩
  · obtain ⟨_, b₂, h₂, h⟩ := run_bind_ok h
    obtain rfl := run_update_ok h₂
    obtain rfl := run_await_ok h
    exact ⟨_, hkind _ _, hupdated _ _ _ hdescribed⟩
  · obtain ⟨_, b₂, h₂, h⟩ := run_bind_ok h
    obtain rfl := run_update_ok h₂
    obtain rfl := run_await_ok h
    exact ⟨_, hkind _ _, hupdated _ _ _ hdescribed⟩
  · obtain rfl := run_update_ok h
    exact ⟨_, hkind _ _, hupdated _ _ _ hdescribed⟩

/-- The node that is answered for an occurrence is the last one that is added, and it has no parts. -/
theorem occurrence_last {name hint : String} {s : SchemaOrRef} {id : ModelId} (hb : b.Ready c)
    (h : run (occurrence c name hint s) b = (.ok id, b')) :
    ∃ b₁ m, Steps c (b.registry.nodes.size ≤ ·) b b₁ ∧ Model.Blank m ∧
      b'.registry = (b₁.registry.push m).2 ∧ id = b₁.registry.nodes.size := by
  cases s with
  | ref path nullable =>
      obtain ⟨target, -, rfl, rfl⟩ := run_occurrence_ref_ok h
      exact ⟨b, _, .refl, ⟨rfl, rfl, rfl, rfl⟩, rfl, rfl⟩
  | inline s =>
      by_cases hform : s.form.isPromoted
      · obtain ⟨b₁, hfill, rfl, rfl⟩ := run_occurrence_promoted_ok hform h
        have hsteps := steps_of_run (fill_promoting_steps c hint _ s hb fun _ hi => hi) hfill
        exact ⟨b₁, _, (promoting_steps _ hint).trans hsteps, ⟨rfl, rfl, rfl, rfl⟩, rfl, rfl⟩
      · obtain ⟨rfl, hfill⟩ := run_occurrence_inPlace_ok hform h
        obtain ⟨m, hm, hregistry⟩ := fill_inPlace (Model.any_blank name) hform hfill
        exact ⟨b, m, .refl, hm, hregistry, rfl⟩

end Build

namespace Builder

open Build

variable {c : Components} {b b' : Builder}

/-- A node without parts that is added to an intact graph is private. -/
theorem Intact.private_pushed (hb : b.Intact c) {m : Model} (hm : m.Blank) :
    (b.registry.push m).2.Private b.registry.nodes.size where
  there := by
    rw [Registry.size_push]
    exact Nat.lt_succ_self _
  unnamed n hn := Nat.lt_irrefl _ (hb.ready.sound.lookup_lt (hb.ready.sound.lookup_of_mem hn))
  unshared i m' hm' := by
    rcases node?_pushed (b := b) hm' with hold | ⟨-, rfl⟩
    · obtain ⟨hmodels, hprimitives⟩ := hb.ready.sound.composed hold
      refine ⟨fun hp => ?_, fun hl => Nat.lt_irrefl _ (hb.link hold hl), by simp [hmodels],
        by simp [hprimitives]⟩
      exact Nat.lt_irrefl _ (hb.ready.sound.properties hold hp)
    · simp [hm.properties, hm.link, hm.composedModels, hm.composedPrimitives]

theorem Called.intact (hc : (Entries.keys c.schemas).Nodup) (hb : b.Called c) : b.Intact c := by
  induction hb with
  | addComponents h =>
      have hadded := addComponents_intact hc
      rwa [h] at hadded
  | @note b e _ ih =>
      have hnote : Steps c (fun _ => True) b (b.noted e) := .single (.note e)
      exact ih.steps hnote
  | occurrence _ h ih =>
      exact ih.steps (steps_of_run (occurrence_steps c _ _ _ _ _ ih.ready fun _ hi => hi) h)
  | linkTarget _ h ih =>
      exact ih.steps (steps_of_run (linkTarget_steps c _ _ ih.ready fun _ hi => hi) h)
  | collect _ hd h ih =>
      subst hd
      exact ih.steps (steps_of_run (collect_elementary _ _ _ ih.ready) h)
  | @linkAll b b' r _ h ih =>
      have hlinked := linkFrom_intact (List.range b.registry.nodes.size) [] ih
      have hrun : linkFrom c (List.range b.registry.nodes.size) [] b = (r, b') := h
      rwa [hrun] at hlinked

/-- Nothing that was there is different. -/
structure Undisturbed (b b' : Builder) : Prop where
  /-- The nodes are as they were. -/
  node : ∀ i m, b.registry.node? i = some m → b'.registry.node? i = some m
  /-- The names lead where they led, at the same positions of the index. -/
  named : b.registry.named <+: b'.registry.named
  /-- The same elements wait for the nodes. -/
  source : ∀ i, i < b.registry.nodes.size → b'.source? i = b.source? i

theorem Steps.undisturbed (h : Steps c (b.registry.nodes.size ≤ ·) b b') (hb : b.Sound c) :
    b.Undisturbed b' where
  node _ _ hm := (Steps.grows h hb).node (Nat.not_le.2 (Registry.node?_eq_some_lt hm)) hm
  named := (Steps.grows h hb).named
  source _ hi := (Steps.grows h hb).idle (Nat.not_le.2 hi)

/-- Adding a schema to a graph that calls have left behind disturbs nothing that was there, whether it
    succeeds or fails. The node that is answered for an occurrence is new and private, so that nothing
    that is set on it changes another node or where another one leads. -/
theorem called_undisturbed (hc : (Entries.keys c.schemas).Nodup) (hb : b.Called c)
    (name hint : String) (s : SchemaOrRef) :
    (∀ r b', run (occurrence c name hint s) b = (r, b') → b.Undisturbed b') ∧
      (∀ r b', run (linkTarget c hint s) b = (r, b') → b.Undisturbed b') ∧
      ∀ id b', run (occurrence c name hint s) b = (.ok id, b') →
        b.registry.nodes.size ≤ id ∧ b'.registry.isNamed id = false ∧ b'.registry.Private id ∧
          ∀ (f : Model → Model) (i : ModelId), i ≠ id →
            (b'.registry.update id f).node? i = b'.registry.node? i ∧
            (b'.registry.update id f).canonical i = b'.registry.canonical i := by
  have hintact := hb.intact hc
  refine ⟨fun r b' h => ?_, fun r b' h => ?_, fun id b' h => ?_⟩
  · exact Steps.undisturbed (steps_of_run
      (occurrence_steps c name hint _ s b hintact.ready fun _ hi => hi) h) hintact.ready.sound
  · exact Steps.undisturbed (steps_of_run
      (linkTarget_steps c hint s hintact.ready fun _ hi => hi) h) hintact.ready.sound
  · obtain ⟨b₁, m, hsteps, hm, hregistry, rfl⟩ := occurrence_last hintact.ready h
    have hprivate : b'.registry.Private b₁.registry.nodes.size := by
      rw [hregistry]
      exact (hintact.steps hsteps).private_pushed hm
    refine ⟨(Steps.grows hsteps hintact.ready.sound).size, ?_, hprivate, fun f i hi => ?_⟩
    · simp [Registry.isNamed, Registry.holds, hprivate.lookup_ne]
    · exact ⟨Registry.node?_update_of_ne hi f, hprivate.canonical_update f hi⟩

/-- A call has failed for a reference to a component that is not there, before an owner is found inline:
    it is promoted, and the node that stands where it was found is private. -/
theorem called_undisturbed_owners : ∃ b b' : Builder, ∃ id, b.Called ownerComponents ∧
    (run (linkTarget ownerComponents "missing" (.ref "#/components/schemas/Missing" none)) b).1.isOk
      = false ∧
    run (occurrence ownerComponents "owner" "petOwner"
      (.inline { type := some (.single .object), additional := some (.allowed false) })) b
      = (.ok id, b') ∧
    Entries.keys b'.registry.named = ["Pet", "PetOwner", "PetOwner2", "PetOwner3"] ∧
    b.Undisturbed b' ∧ b'.registry.Private id := by
  let added := (run (addComponents ownerComponents) {}).2
  let missing := linkTarget ownerComponents "missing" (.ref "#/components/schemas/Missing" none)
  let promoting := occurrence ownerComponents "owner" "petOwner"
    (.inline { type := some (.single .object), additional := some (.allowed false) })
  have hcalled : (run missing added).2.Called ownerComponents :=
    .linkTarget (.addComponents (b := added) rfl) (show run missing added = _ from rfl)
  obtain ⟨id, hpromote⟩ := exists_run_eq (m := promoting) (b := (run missing added).2)
    (by decide +kernel)
  obtain ⟨hundisturbed, -, hprivate⟩ := called_undisturbed (by decide) hcalled "owner" "petOwner"
    (.inline { type := some (.single .object), additional := some (.allowed false) })
  exact ⟨_, _, id, hcalled, by decide +kernel, hpromote, by decide +kernel, hundisturbed _ _ hpromote,
    (hprivate _ _ hpromote).2.2.1⟩

end Builder
end OpenApi
