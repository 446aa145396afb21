import OpenApi.Proofs.Run

set_option autoImplicit false

/-! # Whether a schema builds is a matter of the schema

How a step turns out, that is whether it succeeds and with which error it fails, may depend on the
builder that it starts from. For schemas it does not: all that can fail is following a reference, and
this looks at the components only. Nor does it depend on the names under which nodes are added. Two
steps are `Build.Alike` when they turn out the same from any two builders, and `occurrence_alike`
follows the recursion over a schema once to find that its constructions are. -/

namespace OpenApi

namespace Build

variable {α α' β β' σ : Type}

/-- How a step turns out: its error, or that it succeeds. -/
def outcome (m : Build α) (b : Builder) : Except BuildError Unit := (run m b).1.map fun _ => ()

/-- Two steps turn out the same whatever builders they start from. -/
def Alike (m : Build α) (n : Build β) : Prop := ∀ b b', outcome m b = outcome n b'

theorem outcome_eq_ok_iff {m : Build α} {b : Builder} :
    outcome m b = .ok () ↔ ∃ a b', run m b = (.ok a, b') := by
  unfold outcome
  rcases run m b with ⟨e | a, b'⟩ <;> simp [Except.map]

theorem outcome_eq_error_iff {m : Build α} {b : Builder} {e : BuildError} :
    outcome m b = .error e ↔ (run m b).1 = .error e := by
  unfold outcome
  rcases run m b with ⟨e' | a, b'⟩ <;> simp [Except.map]

/-- After a step that succeeds the next one decides. -/
theorem outcome_bind_of_ok {m : Build α} {f : α → Build β} {b : Builder} {r : Except BuildError Unit}
    (hm : outcome m b = .ok ()) (hf : ∀ a b', run m b = (.ok a, b') → outcome (f a) b' = r) :
    outcome (m >>= f) b = r := by
  obtain ⟨a, b', hr⟩ := outcome_eq_ok_iff.1 hm
  have h := hf a b' hr
  unfold outcome at h ⊢
  rw [run_bind_of_ok hr, h]

/-- After a step that fails nothing is done. -/
theorem outcome_bind_of_error {m : Build α} {f : α → Build β} {b : Builder} {e : BuildError}
    (hm : outcome m b = .error e) : outcome (m >>= f) b = .error e := by
  rw [outcome_eq_error_iff] at hm ⊢
  rw [run_bind]
  rcases hr : run m b with ⟨e' | a, b'⟩
  · rw [hr] at hm
    exact congrArg Except.error (Except.error.inj hm)
  · rw [hr] at hm
    cases hm

/-- Before a step that never fails the first one decides. -/
theorem outcome_bind_right {m : Build α} {f : α → Build β} (hf : ∀ a b, outcome (f a) b = .ok ())
    (b : Builder) : outcome (m >>= f) b = outcome m b := by
  cases h : outcome m b with
  | ok _ => exact outcome_bind_of_ok h fun a b' _ => hf a b'
  | error e => exact outcome_bind_of_error h

theorem outcome_resolving_bind {r : Except ResolveError α} {a : α} {f : α → Build β} (h : r = .ok a)
    (b : Builder) : outcome (resolving r >>= f) b = outcome (f a) b := by
  subst h
  rfl

theorem outcome_mapM_ok {f : α → Build β} {as : List α}
    (h : ∀ a ∈ as, ∀ b, outcome (f a) b = .ok ()) (b : Builder) : outcome (as.mapM f) b = .ok () := by
  induction as generalizing b with
  | nil => rfl
  | cons a rest ih =>
      obtain ⟨ha, hrest⟩ := List.forall_mem_cons.1 h
      rw [List.mapM_cons]
      refine outcome_bind_of_ok (ha b) fun x b₁ _ => ?_
      exact outcome_bind_of_ok (ih hrest b₁) fun xs b₂ _ => rfl

/-- A list fails as the first of its members that fails. -/
theorem outcome_mapM_error {f : α → Build β} {before after : List α} {a : α}
    {e : BuildError} (hbefore : ∀ a ∈ before, ∀ b, outcome (f a) b = .ok ())
    (ha : ∀ b, outcome (f a) b = .error e) (b : Builder) :
    outcome ((before ++ a :: after).mapM f) b = .error e := by
  induction before generalizing b with
  | nil =>
      rw [List.nil_append, List.mapM_cons]
      exact outcome_bind_of_error (ha b)
  | cons a' rest ih =>
      obtain ⟨ha', hrest⟩ := List.forall_mem_cons.1 hbefore
      rw [List.cons_append, List.mapM_cons]
      refine outcome_bind_of_ok (ha' b) fun x b₁ _ => ?_
      exact outcome_bind_of_error (ih hrest b₁)

namespace Alike

/-- Steps that never fail turn out the same. -/
theorem of_ok {m : Build α} {n : Build β} (hm : ∀ b, outcome m b = .ok ())
    (hn : ∀ b, outcome n b = .ok ()) : Alike m n :=
  fun b b' => (hm b).trans (hn b').symm

theorem pure (a : α) (a' : β) : Alike (Pure.pure a : Build α) (Pure.pure a' : Build β) :=
  of_ok (fun _ => rfl) fun _ => rfl

theorem note (e e' : Event) : Alike (Build.note e) (Build.note e') :=
  of_ok (fun _ => rfl) fun _ => rfl

theorem push (m m' : Model) : Alike (Build.push m) (Build.push m') :=
  of_ok (fun _ => rfl) fun _ => rfl

theorem update (id id' : ModelId) (f f' : Model → Model) :
    Alike (Build.update id f) (Build.update id' f') :=
  of_ok (fun _ => rfl) fun _ => rfl

theorem declare (name name' : String) : Alike (Build.declare name) (Build.declare name') :=
  of_ok (fun _ => rfl) fun _ => rfl

theorem await (id id' : ModelId) (source source' : ElementSource) :
    Alike (Build.await id source) (Build.await id' source') :=
  of_ok (fun _ => rfl) fun _ => rfl

theorem get : Alike (MonadState.get : Build Builder) (MonadState.get : Build Builder) :=
  of_ok (fun _ => rfl) fun _ => rfl

/-- Following one reference twice turns out the same. -/
theorem resolving (r : Except ResolveError α) : Alike (Build.resolving r) (Build.resolving r) := by
  cases r <;> exact fun _ _ => rfl

theorem bind {m : Build α} {n : Build α'} {f : α → Build β} {g : α' → Build β'} (hm : Alike m n)
    (hf : ∀ a a', Alike (f a) (g a')) : Alike (m >>= f) (n >>= g) := by
  intro b b'
  have h := hm b b'
  unfold outcome at h ⊢
  rw [run_bind, run_bind]
  rcases hr : run m b with ⟨e | a, b₁⟩ <;> rcases hr' : run n b' with ⟨e' | a', b₁'⟩ <;>
    rw [hr, hr'] at h
  · exact congrArg Except.error (Except.error.inj h)
  · cases h
  · cases h
  · exact hf a a' b₁ b₁'

theorem promote (hint hint' : String) {fill fill' : ModelId → String → Build Unit}
    (h : ∀ id id' name name', Alike (fill id name) (fill' id' name')) :
    Alike (Build.promote hint fill) (Build.promote hint' fill') :=
  bind get fun _ _ => bind (note _ _) fun _ _ => bind (declare _ _) fun _ _ =>
    bind (h _ _ _ _) fun _ _ => pure _ _

theorem makeObject (id id' : ModelId) (name name' : String) {build build' : Build (List ModelId)}
    (h : Alike build build') :
    Alike (Build.makeObject id name build) (Build.makeObject id' name' build') :=
  bind (update _ _ _ _) fun _ _ => bind h fun _ _ => update _ _ _ _

theorem makeComposite (id id' : ModelId) (name name' : String) (k : Combination)
    (d : Option Discriminator) {build build' : Build (List ModelId)} (h : Alike build build') :
    Alike (Build.makeComposite id name k d build) (Build.makeComposite id' name' k d build') :=
  bind (update _ _ _ _) fun _ _ => bind h fun _ _ => update _ _ _ _

theorem makeContainer (id id' : ModelId) (kind : ModelKind) (source source' : ElementSource) :
    Alike (Build.makeContainer id kind source) (Build.makeContainer id' kind source') :=
  bind (update _ _ _ _) fun _ _ => await _ _ _ _

theorem constituents (k : Combination) {one one' any any' all all' own own' : Build (List ModelId)}
    (hone : Alike one one') (hany : Alike any any') (hall : Alike all all') (hown : Alike own own') :
    Alike (Build.constituents k one any all own) (Build.constituents k one' any' all' own') := by
  cases k with
  | oneOf => exact hone
  | anyOf => exact hany
  | allOf => exact bind hall fun _ _ => bind hown fun _ _ => pure _ _

theorem ownProperties (parent parent' : String) (s : SchemaObject σ)
    {build build' : String → Build (List ModelId)}
    (h : ∀ name name', Alike (build name) (build' name')) :
    Alike (Build.ownProperties parent s build) (Build.ownProperties parent' s build') := by
  unfold Build.ownProperties
  split
  · exact pure _ _
  · exact bind (promote _ _ fun _ _ _ _ => makeObject _ _ _ _ (h _ _)) fun _ _ =>
      bind (push _ _) fun _ _ => pure _ _

theorem branchName (c : Components) (hint hint' : String) (s : SchemaOrRef) :
    Alike (Build.branchName c hint s) (Build.branchName c hint' s) := by
  cases s with
  | ref path nullable => exact resolving _
  | inline s => exact pure _ _

end Alike

/-! ## Schemas -/

mutual

/-- How adding a schema turns out depends neither on the graph nor on names. -/
theorem occurrence_alike (c : Components) (name name' hint hint' : String) :
    ∀ s : SchemaOrRef, Alike (occurrence c name hint s) (occurrence c name' hint' s)
  | .ref path nullable => by
      rw [occurrence, occurrence]
      exact .bind (.resolving _) fun _ _ => .push _ _
  | .inline s => by
      rw [occurrence, occurrence]
      split
      · exact .bind (.promote _ _ fun _ _ _ _ => fill_alike c _ _ _ _ s) fun _ _ => .push _ _
      · exact .bind (.push _ _) fun _ _ => .bind (fill_alike c _ _ _ _ s) fun _ _ => .pure _ _

theorem fill_alike (c : Components) (id id' : ModelId) (hint hint' : String)
    (s : SchemaObject SchemaOrRef) : Alike (fill c id hint s) (fill c id' hint' s) := by
  rw [fill, fill]
  refine .bind (.update _ _ _ _) fun _ _ => ?_
  -- one goal for each form of a schema
  split
  · exact .makeObject _ _ _ _ (properties_alike c _ _ _ s.properties)
  · exact .makeComposite _ _ _ _ _ _ (.constituents _ (branches_alike c _ _ _ _ _ s.oneOf)
      (branches_alike c _ _ _ _ _ s.anyOf) (branches_alike c _ _ _ _ _ s.allOf)
      (.ownProperties _ _ s fun _ _ => properties_alike c _ _ _ s.properties))
  · exact .update _ _ _ _
  · exact .makeContainer _ _ _ _ _
  · exact .makeContainer _ _ _ _ _
  · exact .update _ _ _ _

theorem properties_alike (c : Components) (parent parent' : String) (required : List String) :
    ∀ ps : List (String × SchemaOrRef),
      Alike (properties c parent required ps) (properties c parent' required ps)
  | [] => .pure _ _
  | (field, s) :: rest => by
      rw [properties, properties]
      exact .bind (occurrence_alike c _ _ _ _ s) fun _ _ => .bind (.update _ _ _ _) fun _ _ =>
        .bind (properties_alike c _ _ _ rest) fun _ _ => .pure _ _

theorem branches_alike (c : Components) (parent parent' : String) (i i' : Nat)
    (seen : List SchemaOrRef) :
    ∀ bs : List SchemaOrRef, Alike (branches c parent i seen bs) (branches c parent' i' seen bs)
  | [] => .pure _ _
  | s :: rest => by
      rw [branches, branches]
      split
      · exact .bind (.note _ _) fun _ _ => branches_alike c _ _ _ _ _ rest
      · exact .bind (.branchName _ _ _ _) fun _ _ => .bind (occurrence_alike c _ _ _ _ s) fun _ _ =>
          .bind (branches_alike c _ _ _ _ _ rest) fun _ _ => .pure _ _

end

end Build

/-- A schema builds: its node can be added to some graph under some name. -/
def Components.Builds (c : Components) (s : SchemaOrRef) : Prop :=
  ∃ name hint b, Build.outcome (Build.occurrence c name hint s) b = .ok ()

/-- A schema that builds can be added to every graph under every name. -/
theorem Components.Builds.outcome {c : Components} {s : SchemaOrRef} (h : c.Builds s)
    (name hint : String) (b : Builder) : Build.outcome (Build.occurrence c name hint s) b = .ok () := by
  obtain ⟨name', hint', b', hb'⟩ := h
  exact (Build.occurrence_alike c name name' hint hint' s b b').trans hb'

end OpenApi
