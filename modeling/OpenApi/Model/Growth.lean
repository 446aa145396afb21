import OpenApi.Model.Builder

set_option autoImplicit false

/-! # How much a graph can grow

Building a schema adds nodes, and leaves the elements of containers waiting. `Builder.load` counts both:
the nodes, and a bound on the nodes that the waiting elements can still become. A step is
`Bounded` by a number if it removes no node and adds at most that much to the load. The main statement
is `occurrence_bounded`: a schema adds at most four times its size. -/

namespace OpenApi

/-- A bound on the load that building the elements adds. -/
noncomputable def ElementSource.weight (source : ElementSource) : Nat :=
  match source.schema with
  | none => 0
  | some s => 4 * sizeOf s

/-- A bound on the load that building all elements of a list adds. -/
noncomputable def ElementSource.totalWeight : List (ModelId × ElementSource) → Nat
  | [] => 0
  | p :: ps => p.2.weight + totalWeight ps

namespace Builder

/-- What all waiting elements together can still add. -/
noncomputable def pendingWeight (b : Builder) : Nat := ElementSource.totalWeight b.pending

/-- The nodes, and what the waiting elements can still add. -/
noncomputable def load (b : Builder) : Nat := b.registry.nodes.size + b.pendingWeight

theorem dropSource_weight_le (b : Builder) (id : ModelId) :
    (b.dropSource id).pendingWeight ≤ b.pendingWeight := by
  obtain ⟨registry, used, pending, log⟩ := b
  simp only [dropSource, pendingWeight]
  induction pending with
  | nil => simp
  | cons p ps ih =>
      rw [List.filter_cons]
      split <;> simp_all only [ElementSource.totalWeight] <;> omega

theorem dropSource_weight {b : Builder} {id : ModelId} {source : ElementSource}
    (h : b.source? id = some source) :
    (b.dropSource id).pendingWeight + source.weight ≤ b.pendingWeight := by
  obtain ⟨registry, used, pending, log⟩ := b
  induction pending with
  | nil => simp [source?] at h
  | cons p ps ih =>
      have hle := dropSource_weight_le ⟨registry, used, ps, log⟩ id
      simp only [source?, dropSource, pendingWeight] at h hle ih ⊢
      rw [List.filter_cons]
      by_cases hp : p.1 = id
      · have hs : p.2 = source := by simpa [hp] using h
        simp only [hp, hs, ne_eq, not_true_eq_false, decide_false, Bool.false_eq_true, if_false,
          ElementSource.totalWeight] at hle ⊢
        omega
      · have := ih (by simpa [hp] using h)
        simp_all [ElementSource.totalWeight]
        omega

end Builder

namespace Build

variable {α β σ : Type}

/-- What a step does to a graph under construction. -/
def run (m : Build α) (b : Builder) : Except BuildError α × Builder := (ExceptT.run m).run b

theorem run_bind (m : Build α) (f : α → Build β) (b : Builder) :
    run (m >>= f) b = match run m b with
      | (.ok a, b') => run (f a) b'
      | (.error e, b') => (.error e, b') := by
  show (ExceptT.run (m >>= f)).run b = _
  simp only [run, ExceptT.run_bind, StateT.run_bind]
  show (match (ExceptT.run m).run b with | (x, s) => _) = _
  rcases (ExceptT.run m).run b with ⟨_ | _, _⟩ <;> rfl

/-- The step removes no node and adds at most `k` to the load. -/
def Bounded (m : Build α) (k : Nat) : Prop :=
  ∀ b, b.registry.nodes.size ≤ (run m b).2.registry.nodes.size ∧ (run m b).2.load ≤ b.load + k

namespace Bounded

theorem mono {m : Build α} {k l : Nat} (h : Bounded m k) (hkl : k ≤ l) : Bounded m l :=
  fun b => ⟨(h b).1, by have := (h b).2; omega⟩

theorem bind {m : Build α} {f : α → Build β} {k l : Nat} (hm : Bounded m k)
    (hf : ∀ a, Bounded (f a) l) : Bounded (m >>= f) (k + l) := by
  intro b
  rw [run_bind]
  have h := hm b
  rcases hr : run m b with ⟨e | a, b'⟩
  · simp only [hr] at h ⊢
    exact ⟨h.1, by omega⟩
  · have h' := hf a b'
    simp only [hr] at h ⊢
    exact ⟨by omega, by omega⟩

theorem pure (a : α) : Bounded (Pure.pure a : Build α) 0 :=
  fun _ => ⟨Nat.le_refl _, Nat.le_refl _⟩

theorem fail (e : BuildError) : Bounded (Build.fail e : Build α) 0 :=
  fun _ => ⟨Nat.le_refl _, Nat.le_refl _⟩

theorem get : Bounded (MonadState.get : Build Builder) 0 :=
  fun _ => ⟨Nat.le_refl _, Nat.le_refl _⟩

theorem resolving (r : Except ResolveError α) : Bounded (Build.resolving r) 0 := by
  cases r
  · exact fail _
  · exact pure _

theorem note (e : Event) : Bounded (Build.note e) 0 :=
  fun _ => ⟨Nat.le_refl _, Nat.le_refl _⟩

theorem graph : Bounded Build.graph 0 := bind get fun _ => pure _

theorem push (m : Model) : Bounded (Build.push m) 1 := by
  intro b
  show _ ≤ (b.registry.nodes.push m).size ∧ (b.registry.nodes.push m).size + b.pendingWeight ≤ _
  simp only [Array.size_push, Builder.load]
  omega

theorem update (id : ModelId) (f : Model → Model) : Bounded (Build.update id f) 0 := by
  intro b
  show _ ≤ (b.registry.nodes.modify id f).size
    ∧ (b.registry.nodes.modify id f).size + b.pendingWeight ≤ _
  simp [Builder.load]

theorem declare (name : String) : Bounded (Build.declare name) 1 := by
  intro b
  show _ ≤ (b.registry.nodes.push (Model.any name)).size
    ∧ (b.registry.nodes.push (Model.any name)).size + b.pendingWeight ≤ _
  simp only [Array.size_push, Builder.load]
  omega

theorem await (id : ModelId) (source : ElementSource) :
    Bounded (Build.await id source) source.weight := by
  intro b
  show _ ≤ b.registry.nodes.size
    ∧ b.registry.nodes.size + ElementSource.totalWeight ((id, source) :: b.pending) ≤ _
  simp only [ElementSource.totalWeight, Builder.load, Builder.pendingWeight]
  omega

theorem promote (hint : String) {fill : ModelId → String → Build Unit} {k : Nat}
    (h : ∀ id name, Bounded (fill id name) k) : Bounded (Build.promote hint fill) (k + 1) :=
  (bind get fun _ => bind (note _) fun _ => bind (declare _) fun _ => bind (h _ _) fun _ =>
    pure _).mono (by omega)

theorem setKind (id : ModelId) (kind : ModelKind) (baseType : String) :
    Bounded (Build.setKind id kind baseType) 0 := update _ _

theorem makeObject (id : ModelId) (name : String) {build : Build (List ModelId)} {k : Nat}
    (h : Bounded build k) : Bounded (Build.makeObject id name build) k :=
  (bind (setKind _ _ _) fun _ => bind h fun _ => update _ _).mono (by omega)

theorem makeComposite (id : ModelId) (name : String) (c : Combination) (d : Option Discriminator)
    {build : Build (List ModelId)} {k : Nat} (h : Bounded build k) :
    Bounded (Build.makeComposite id name c d build) k :=
  (bind (setKind _ _ _) fun _ => bind h fun _ => update _ _).mono (by omega)

theorem makeContainer (id : ModelId) (kind : ModelKind) (source : ElementSource) :
    Bounded (Build.makeContainer id kind source) source.weight :=
  (bind (setKind _ _ _) fun _ => await _ _).mono (by omega)

theorem ownProperties (parent : String) (s : SchemaObject σ)
    {build : String → Build (List ModelId)} {k : Nat} (h : ∀ name, Bounded (build name) k) :
    Bounded (Build.ownProperties parent s build) (k + 2) := by
  unfold Build.ownProperties
  split
  · exact (pure _).mono (by omega)
  · exact (bind (promote _ fun _ _ => makeObject _ _ (h _)) fun _ =>
      bind (push _) fun _ => pure _).mono (by omega)

theorem branchName (c : Components) (hint : String) (s : SchemaOrRef) :
    Bounded (Build.branchName c hint s) 0 := by
  cases s
  · exact resolving _
  · exact pure _

end Bounded

/-! ## The size of a schema bounds what it adds -/

theorem additional_of_form_eq_dictionary {s : SchemaObject σ} {value : σ}
    (h : s.form = .dictionary (some value)) : s.additional = some (.schema value) := by
  -- only one of the many branches makes a dictionary of a schema
  unfold SchemaObject.form SchemaObject.untypedForm SchemaObject.typedForm
    SchemaObject.objectForm at h
  repeat' split at h
  all_goals simp_all

theorem dictionary_weight {s : Schema} {value : Option SchemaOrRef}
    (h : s.form = .dictionary value) (hint : String) :
    (ElementSource.mk hint value).weight ≤ 4 * sizeOf s := by
  cases value with
  | none => exact Nat.zero_le _
  | some value =>
      have ha := additional_of_form_eq_dictionary h
      cases s
      simp only at ha
      subst ha
      simp only [ElementSource.weight, SchemaObject.mk.sizeOf_spec, Option.some.sizeOf_spec,
        Additional.schema.sizeOf_spec]
      omega

theorem array_weight (s : Schema) (hint : String) :
    (ElementSource.mk hint s.items).weight ≤ 4 * sizeOf s := by
  cases h : s.items with
  | none => exact Nat.zero_le _
  | some item =>
      cases s
      simp only at h
      subst h
      simp only [ElementSource.weight, SchemaObject.mk.sizeOf_spec, Option.some.sizeOf_spec]
      omega

theorem sizeOf_parts (s : Schema) :
    sizeOf s.properties + sizeOf s.oneOf + sizeOf s.anyOf + sizeOf s.allOf + 1 ≤ sizeOf s := by
  cases s
  simp only [SchemaObject.mk.sizeOf_spec]
  omega

mutual

theorem occurrence_bounded (c : Components) (name hint : String) :
    ∀ s : SchemaOrRef, Bounded (occurrence c name hint s) (4 * sizeOf s)
  | .ref path nullable => by
      rw [occurrence]
      refine (Bounded.bind (.resolving _) fun _ => .push _).mono ?_
      simp only [SchemaOrRef.ref.sizeOf_spec]
      omega
  | .inline s => by
      have hs : 4 * sizeOf (SchemaOrRef.inline s) = 4 * sizeOf s + 4 := by
        simp only [SchemaOrRef.inline.sizeOf_spec]
        omega
      rw [occurrence, hs]
      split
      · exact (Bounded.bind (.promote _ fun _ _ => fill_bounded c _ _ s) fun _ =>
          .push _).mono (by omega)
      · exact (Bounded.bind (.push _) fun _ => .bind (fill_bounded c _ _ s) fun _ =>
          .pure _).mono (by omega)

theorem fill_bounded (c : Components) (id : ModelId) (hint : String)
    (s : SchemaObject SchemaOrRef) : Bounded (fill c id hint s) (4 * sizeOf s) := by
  have hparts := sizeOf_parts s
  rw [fill]
  refine (Bounded.bind (.update _ _) fun _ => ?_ : Bounded _ (0 + 4 * sizeOf s)).mono (by omega)
  -- one goal for each form of a schema
  split
  · exact (Bounded.makeObject _ _ (properties_bounded c _ _ s.properties)).mono (by omega)
  · next k _ =>
      refine (Bounded.makeComposite _ _ _ _ (k := 4 * sizeOf s) ?_)
      cases k
      · exact (branches_bounded c _ _ _ s.oneOf).mono (by omega)
      · exact (branches_bounded c _ _ _ s.anyOf).mono (by omega)
      · exact (Bounded.bind (branches_bounded c _ _ _ s.allOf) fun _ =>
          .bind (.ownProperties _ _ fun _ => properties_bounded c _ _ s.properties) fun _ =>
            .pure _).mono (by omega)
  · exact (Bounded.update _ _).mono (by omega)
  · exact (Bounded.makeContainer _ _ _).mono (array_weight s _)
  · next h => exact (Bounded.makeContainer _ _ _).mono (dictionary_weight h _)
  · exact (Bounded.setKind _ _ _).mono (by omega)

theorem properties_bounded (c : Components) (parent : String) (required : List String) :
    ∀ ps : List (String × SchemaOrRef), Bounded (properties c parent required ps) (4 * sizeOf ps)
  | [] => (Bounded.pure _).mono (by omega)
  | (field, s) :: rest => by
      rw [properties]
      refine (Bounded.bind (occurrence_bounded c _ _ s) fun _ => .bind (.update _ _) fun _ =>
        .bind (properties_bounded c _ _ rest) fun _ => .pure _).mono ?_
      simp only [List.cons.sizeOf_spec, Prod.mk.sizeOf_spec]
      omega

theorem branches_bounded (c : Components) (parent : String) (i : Nat) (seen : List SchemaOrRef) :
    ∀ bs : List SchemaOrRef, Bounded (branches c parent i seen bs) (4 * sizeOf bs)
  | [] => (Bounded.pure _).mono (by omega)
  | s :: rest => by
      rw [branches]
      simp only [List.cons.sizeOf_spec]
      split
      · exact (Bounded.bind (.note _) fun _ => branches_bounded c _ _ _ rest).mono (by omega)
      · exact (Bounded.bind (.branchName _ _ _) fun _ => .bind (occurrence_bounded c _ _ s) fun _ =>
          .bind (branches_bounded c _ _ _ rest) fun _ => .pure _).mono (by omega)

end

theorem linkTarget_bounded (c : Components) (hint : String) (s : SchemaOrRef) :
    Bounded (linkTarget c hint s) (4 * sizeOf s) := by
  cases s with
  | ref path nullable =>
      refine (Bounded.bind (.resolving _) fun _ => Bounded.bind .graph fun _ => ?_ :
        Bounded _ (0 + (0 + 0))).mono (by omega)
      split
      · exact .pure _
      · exact .fail _
  | inline s =>
      rw [linkTarget]
      split
      · refine (Bounded.bind (.promote _ fun _ _ => fill_bounded c _ _ s) fun _ => .pure _).mono ?_
        simp only [SchemaOrRef.inline.sizeOf_spec]
        omega
      · exact occurrence_bounded c _ _ _

end Build

end OpenApi
