import Mathlib.Data.List.Forall2
import OpenApi.Operation.Collect
import OpenApi.Proofs.Components
import OpenApi.Proofs.Results

set_option autoImplicit false

/-! # Collecting operations represents what they declare

`Document.declaredOperations` lists what a document declares, and `View.RepresentsOperation` says when an
operation stands for one of these: its parameters, its body and its responses are those that were
declared, references followed, and their nodes stand for the schemas. `collect_represents` is the main
statement. -/

namespace OpenApi

/-! ## What a document declares -/

/-- An operation of a document where it is declared. -/
structure DeclaredOperation where
  path : String
  method : Method
  /-- The parameters of all operations of the path. -/
  shared : List (RefOr ParameterSpec)
  spec : OperationSpec

/-- The operation of a path under a method, where it has one. -/
def PathItem.declaredUnder (item : PathItem) (path : String) (method : Method)
    (spec : Option OperationSpec) : List DeclaredOperation :=
  spec.toList.map fun spec => ⟨path, method, item.parameters, spec⟩

/-- The operations of a path, field by field. -/
def PathItem.declaredOperations (item : PathItem) (path : String) : List DeclaredOperation :=
  [item.declaredUnder path .get item.get,
    item.declaredUnder path .post item.post,
    item.declaredUnder path .put item.put,
    item.declaredUnder path .delete item.delete,
    item.declaredUnder path .patch item.patch,
    item.declaredUnder path .options item.options,
    item.declaredUnder path .head item.head,
    item.declaredUnder path .trace item.trace].flatten

/-- The operations of a document: path after path, and those of each path field by field. -/
def Document.declaredOperations (d : Document) : List DeclaredOperation :=
  d.paths.flatMap fun (path, item) => item.declaredOperations path

/-- Visiting the methods of a path finds the operations in its fields, in that order. -/
theorem PathItem.declaredOperations_eq_map (item : PathItem) (path : String) :
    item.declaredOperations path =
      item.operations.map fun (method, spec) => ⟨path, method, item.parameters, spec⟩ := by
  rw [operations, List.map_filterMap, List.filterMap_eq_flatMap_toList]
  simp only [Option.map_map, Option.toList_map]
  rfl

/-! ## What it means to stand for it -/

namespace View

variable (c : Components) (v : View)

/-- A parameter stands for a declared one. -/
structure RepresentsParameter (spec : ParameterSpec) (p : Parameter) : Prop where
  name : p.name = spec.name
  location : p.location = .declared spec.place
  model : v.Stands c spec.schema p.model

/-- The body stands for the preferred content of a declared one. -/
inductive RepresentsBody : Option (RefOr RequestBody) → Option Parameter → Prop
  | undeclared : RepresentsBody none none
  | empty {r : RefOr RequestBody} {body : RequestBody} : c.resolveRequestBody r = .ok body →
      body.content.preferred? = none → RepresentsBody (some r) none
  | content {r : RefOr RequestBody} {body : RequestBody} {mediaType : String} {media : MediaType}
      {p : Parameter} : c.resolveRequestBody r = .ok body →
      body.content.preferred? = some (mediaType, media) → p.mediaType = some mediaType →
      v.Stands c media.schema p.model → RepresentsBody (some r) (some p)

/-- The node of a response stands for the preferred content. -/
inductive RepresentsContent (content : Content) : Option ModelId → Prop
  | empty : content.preferred? = none → RepresentsContent content none
  | content {mediaType : String} {media : MediaType} {id : ModelId} :
      content.preferred? = some (mediaType, media) → v.Stands c media.schema id →
      RepresentsContent content (some id)

/-- A response stands for a declared one under its key. -/
structure RepresentsResponse (entry : String × RefOr ResponseSpec) (response : Response) : Prop where
  code : ResponseCode.ofKey? entry.1 = some response.code
  content : ∃ spec, c.resolveResponse entry.2 = .ok spec ∧
    v.RepresentsContent c spec.content response.model

/-- An operation stands for a declared one. Responses are in an order of their own. -/
structure RepresentsOperation (d : DeclaredOperation) (op : Operation) : Prop where
  path : op.path = d.path
  method : op.method = d.method
  tags : op.tags = distinct d.spec.tags
  parameters : ∃ specs, mergedParameters c d.shared d.spec.parameters = .ok specs ∧
    List.Forall₂ (v.RepresentsParameter c) specs op.declaredParameters
  body : v.RepresentsBody c d.spec.requestBody op.body?
  responses : ∃ responses, op.responses.Perm responses ∧
    List.Forall₂ (v.RepresentsResponse c) d.spec.responses responses
  nodes : ∀ p ∈ op.parameters, ∃ m, v.node p.model m

variable {c : Components} {v v' : View}

theorem RepresentsBody.node {r : Option (RefOr RequestBody)} {p : Option Parameter}
    (h : v.RepresentsBody c r p) : ∀ q ∈ p, ∃ m, v.node q.model m := by
  cases h with
  | undeclared => rintro _ ⟨⟩
  | empty => rintro _ ⟨⟩
  | content _ _ _ hstands =>
      rintro _ ⟨⟩
      exact hstands.1

/-- Declared parameters are no bodies. -/
theorem declared_of_representsParameter {specs : List ParameterSpec} {ps : List Parameter}
    (h : List.Forall₂ (v.RepresentsParameter c) specs ps) : ∀ p ∈ ps, p.location ≠ .body := by
  intro p hp
  obtain ⟨spec, -, hspec⟩ := exists_of_forall₂ h hp
  rw [hspec.location]
  exact Location.noConfusion

theorem RepresentsParameter.mono (h : v.Le c v') {spec : ParameterSpec} {p : Parameter}
    (hp : v.RepresentsParameter c spec p) : v'.RepresentsParameter c spec p :=
  ⟨hp.name, hp.location, hp.model.mono h⟩

theorem RepresentsBody.mono (h : v.Le c v') {r : Option (RefOr RequestBody)} {p : Option Parameter}
    (hp : v.RepresentsBody c r p) : v'.RepresentsBody c r p := by
  cases hp with
  | undeclared => exact .undeclared
  | empty hbody hnone => exact .empty hbody hnone
  | content hbody hsome htype hstands => exact .content hbody hsome htype (hstands.mono h)

theorem RepresentsContent.mono (h : v.Le c v') {content : Content} {id : Option ModelId}
    (hc : v.RepresentsContent c content id) : v'.RepresentsContent c content id := by
  cases hc with
  | empty hnone => exact .empty hnone
  | content hsome hstands => exact .content hsome (hstands.mono h)

theorem RepresentsResponse.mono (h : v.Le c v') {entry : String × RefOr ResponseSpec}
    {response : Response} (hr : v.RepresentsResponse c entry response) :
    v'.RepresentsResponse c entry response := by
  obtain ⟨hcode, spec, hspec, hcontent⟩ := hr
  exact ⟨hcode, spec, hspec, hcontent.mono h⟩

theorem RepresentsOperation.mono (h : v.Le c v') {d : DeclaredOperation} {op : Operation}
    (hop : v.RepresentsOperation c d op) : v'.RepresentsOperation c d op where
  path := hop.path
  method := hop.method
  tags := hop.tags
  parameters := by
    obtain ⟨specs, hspecs, hall⟩ := hop.parameters
    exact ⟨specs, hspecs, hall.imp fun _ _ hp => hp.mono h⟩
  body := hop.body.mono h
  responses := by
    obtain ⟨responses, hperm, hall⟩ := hop.responses
    exact ⟨responses, hperm, hall.imp fun _ _ hr => hr.mono h⟩
  nodes p hp := by
    obtain ⟨m, hm⟩ := hop.nodes p hp
    obtain ⟨m', hm', -⟩ := h.node hm
    exact ⟨m', hm'⟩

end View

namespace Build

open Builder View

variable {c : Components} {b b' : Builder}

/-! ## Nodes with flags -/

theorem occurrenceOrAny_ok {name hint : String} {s : Option SchemaOrRef} {id : ModelId}
    (hb : b.Ready c) (h : run (occurrenceOrAny c name hint s) b = (.ok id, b')) :
    Steps c (b.registry.nodes.size ≤ ·) b b' ∧ b.registry.nodes.size ≤ id ∧
      ∃ m, b'.registry.node? id = some m ∧ ∀ t, s = some t →
        Occurs c (b'.view fun i => b.registry.nodes.size ≤ i ∧ i ≠ id) t id m := by
  cases s with
  | none =>
      obtain ⟨rfl, rfl⟩ := run_push_ok h
      refine ⟨.single (.push (Model.any_blank name) (.inl rfl)), Nat.le_refl _, _,
        Registry.node?_push_self _ _, ?_⟩
      rintro _ ⟨⟩
  | some s =>
      obtain ⟨m, hm, -, hocc⟩ := occurrence_occurs c name hint s hb h
      refine ⟨steps_of_run (occurrence_steps c name hint _ s b hb fun _ hi => hi) h,
        (occurrence_addsOne c name hint s _ _ _ h).1, m, hm, ?_⟩
      rintro _ ⟨⟩
      exact hocc

/-- A node that is added and then given flags by the place where it stands. -/
theorem flagged_ok {name hint : String} {s : Option SchemaOrRef} {id : ModelId} {f : Model → Model}
    (hb : b.Ready c) (h : run (occurrenceOrAny c name hint s) b = (.ok id, b'))
    (halike : ∀ m : Model, m.Alike (f m)) (hrev : ∀ m : Model, b'.Revision c id m (f m)) :
    Steps c (b.registry.nodes.size ≤ ·) b (b'.updated id f) ∧
      (b'.updated id f).whole.Stands c s id := by
  obtain ⟨hsteps, hge, m, hm, hocc⟩ := occurrenceOrAny_ok hb h
  have hnode : (b'.updated id f).whole.node id (f m) := ⟨trivial, Registry.node?_update_self hm⟩
  refine ⟨hsteps.tail (.update hge fun m _ => hrev m), ⟨_, hnode⟩, fun t ht => ?_⟩
  have hle : (b'.view fun i => b.registry.nodes.size ≤ i ∧ i ≠ id).Le c ((b'.updated id f).view _) :=
    b'.view_le_updated (fun hvis => hvis.2 rfl) fun m => (hrev m).link
  exact ⟨f m, hnode, ((hocc t ht).mono hle (halike m)).mono
    ((b'.updated id f).view_le_view fun _ _ => trivial) (Model.Alike.refl _)⟩

/-! ## Lists -/

/-- What runs do to builders adds up: `T` composes from builders with `P`, and keeps `P`. -/
structure Accumulates (P : Builder → Prop) (T : Builder → Builder → Prop) : Prop where
  refl : ∀ b, T b b
  trans : ∀ {b b₁ b₂ : Builder}, P b → T b b₁ → T b₁ b₂ → T b b₂
  keeps : ∀ {b b' : Builder}, T b b' → P b → P b'

theorem accumulates_steps (c : Components) :
    Accumulates (Ready c) fun b b' => Steps c (b.registry.nodes.size ≤ ·) b b' where
  refl _ := .refl
  trans hb h₁ h₂ := Steps.append h₁ h₂ hb.sound
  keeps := Steps.ready

theorem accumulates_true : Accumulates (fun _ => True) fun _ _ => True :=
  ⟨fun _ => trivial, fun _ _ _ => trivial, fun _ _ => trivial⟩

section Accumulates

variable {P : Builder → Prop} {T : Builder → Builder → Prop}

/-- The members of a list are built one after the other. What is known of a member once it is built is
    known of it in the end, when the runs for later members keep it. -/
theorem mapM_accumulates {α β : Type} {R : Builder → α → β → Prop} {f : α → Build β}
    (hT : Accumulates P T)
    (hR : ∀ {b b' : Builder} {a : α} {x : β}, P b → T b b' → R b a x → R b' a x)
    (hf : ∀ {a : α} {x : β} {b b' : Builder}, P b → run (f a) b = (.ok x, b') → T b b' ∧ R b' a x)
    {as : List α} {xs : List β} (hb : P b) (h : run (as.mapM f) b = (.ok xs, b')) :
    T b b' ∧ List.Forall₂ (R b') as xs := by
  induction as generalizing b xs with
  | nil =>
      rw [List.mapM_nil] at h
      obtain ⟨rfl, rfl⟩ := run_pure_ok h
      exact ⟨hT.refl b, .nil⟩
  | cons a rest ih =>
      rw [List.mapM_cons] at h
      obtain ⟨x, b₁, h₁, h⟩ := run_bind_ok h
      obtain ⟨xs', b₂, h₂, h⟩ := run_bind_ok h
      obtain ⟨rfl, rfl⟩ := run_pure_ok h
      obtain ⟨hstep, hx⟩ := hf hb h₁
      have hb₁ := hT.keeps hstep hb
      obtain ⟨hrest, hxs⟩ := ih hb₁ h₂
      exact ⟨hT.trans hb hstep hrest, .cons (hR hb₁ hrest hx) hxs⟩

/-- So are the operations of a document, in the order in which it declares them. -/
theorem collect_accumulates {d : Document} {options : Options}
    {R : Builder → DeclaredOperation → Operation → Prop} (hT : Accumulates P T)
    (hR : ∀ {b b' : Builder} {decl : DeclaredOperation} {op : Operation},
      P b → T b b' → R b decl op → R b' decl op)
    (hop : ∀ {path : String} {method : Method} {shared : List (RefOr ParameterSpec)}
      {spec : OperationSpec} {op : Operation} {b b' : Builder}, P b →
      run (operation d.componentsOrNone options path method shared spec) b = (.ok op, b') →
      T b b' ∧ R b' ⟨path, method, shared, spec⟩ op)
    {ops : List Operation} (hb : P b) (h : run (collect d options) b = (.ok ops, b')) :
    T b b' ∧ List.Forall₂ (R b') d.declaredOperations ops := by
  obtain ⟨perPath, b₁, h₁, h⟩ := run_bind_ok h
  obtain ⟨rfl, rfl⟩ := run_pure_ok h
  -- under each path, and there under each method
  obtain ⟨htotal, hall⟩ := mapM_accumulates
    (R := fun b (entry : String × PathItem) ops =>
      List.Forall₂ (R b) (entry.2.declaredOperations entry.1) ops)
    hT (fun hb hle hops => hops.imp fun _ _ hop => hR hb hle hop) (fun hb h => by
      obtain ⟨hpath, hops⟩ := mapM_accumulates
        (R := fun b (entry : Method × OperationSpec) op => R b ⟨_, entry.1, _, entry.2⟩ op)
        hT hR hop hb h
      rw [PathItem.declaredOperations_eq_map]
      exact ⟨hpath, List.forall₂_map_left_iff.2 hops⟩) hb h₁
  exact ⟨htotal, List.rel_flatten (List.forall₂_map_left_iff.2 hall)⟩

end Accumulates

/-- The members of a list are built one by one. -/
theorem mapM_forall₂ {α β : Type} {R : α → β → Prop} {f : α → Build β}
    (hf : ∀ {a : α} {x : β} {b b' : Builder}, run (f a) b = (.ok x, b') → R a x) {as : List α}
    {xs : List β} (h : run (as.mapM f) b = (.ok xs, b')) : List.Forall₂ R as xs :=
  (mapM_accumulates (R := fun _ => R) accumulates_true (fun _ _ hx => hx)
    (fun _ h => ⟨trivial, hf h⟩) trivial h).2

/-- Building the members of a list represents all of them, since later ones leave earlier ones as they
    are. -/
theorem mapM_represents {α β : Type} {R : View → α → β → Prop} {f : α → Build β}
    (hmono : ∀ {v v' : View} {a : α} {x : β}, v.Le c v' → R v a x → R v' a x)
    (hf : ∀ {a : α} {x : β} {b b' : Builder}, b.Ready c → run (f a) b = (.ok x, b') →
      Steps c (b.registry.nodes.size ≤ ·) b b' ∧ R b'.whole a x)
    {as : List α} {xs : List β} (hb : b.Ready c) (h : run (as.mapM f) b = (.ok xs, b')) :
    Steps c (b.registry.nodes.size ≤ ·) b b' ∧ List.Forall₂ (R b'.whole) as xs :=
  mapM_accumulates (R := fun b => R b.whole) (accumulates_steps c)
    (fun hb h hx => hmono (Steps.whole_le h hb.sound) hx) hf hb h

/-! ## Parts of an operation -/

theorem parameter_represents {scope : String} {spec : ParameterSpec} {p : Parameter}
    (hb : b.Ready c) (h : run (parameter c scope spec) b = (.ok p, b')) :
    Steps c (b.registry.nodes.size ≤ ·) b b' ∧ b'.whole.RepresentsParameter c spec p := by
  obtain ⟨id, b₁, h₁, h⟩ := run_bind_ok h
  obtain ⟨_, b₂, h₂, h⟩ := run_bind_ok h
  obtain ⟨r, b₃, h₃, h⟩ := run_bind_ok h
  cases h₃
  obtain ⟨rfl, rfl⟩ := run_pure_ok h
  obtain rfl := run_update_ok h₂
  obtain ⟨hsteps, hstands⟩ := flagged_ok (f := parameterFlags spec _) hb h₁
    (fun _ => ⟨rfl, rfl, rfl, rfl, rfl, rfl⟩) fun _ => .of_shape rfl rfl rfl rfl rfl rfl rfl
  exact ⟨hsteps, rfl, rfl, hstands⟩

theorem body_represents {scope : String} {r : Option (RefOr RequestBody)} {ps : List Parameter}
    (hb : b.Ready c) (h : run (body c scope r) b = (.ok ps, b')) :
    Steps c (b.registry.nodes.size ≤ ·) b b' ∧
      ∃ p, ps = p.toList ∧ b'.whole.RepresentsBody c r p ∧ ∀ q ∈ p, q.location = .body := by
  cases r with
  | none =>
      obtain ⟨rfl, rfl⟩ := run_pure_ok h
      exact ⟨.refl, none, rfl, .undeclared, by simp⟩
  | some r =>
      obtain ⟨spec, b₁, h₁, h⟩ := run_bind_ok h
      obtain ⟨hspec, rfl⟩ := run_resolving_ok h₁
      rw [bodyOf] at h
      split at h
      · next hnone =>
          obtain ⟨_, b₂, h₂, h⟩ := run_bind_ok h
          obtain rfl := run_note_ok h₂
          obtain ⟨rfl, rfl⟩ := run_pure_ok h
          exact ⟨.single (.note _), none, rfl, .empty hspec hnone, by simp⟩
      · next mediaType media hsome =>
          obtain ⟨id, b₂, h₂, h⟩ := run_bind_ok h
          obtain ⟨_, b₃, h₃, h⟩ := run_bind_ok h
          obtain ⟨rfl, rfl⟩ := run_pure_ok h
          obtain rfl := run_update_ok h₃
          obtain ⟨hsteps, hstands⟩ := flagged_ok (f := bodyFlags spec) hb h₂
            (fun _ => ⟨rfl, rfl, rfl, rfl, rfl, rfl⟩) fun _ => .of_shape rfl rfl rfl rfl rfl rfl rfl
          refine ⟨hsteps, some _, rfl, .content hspec hsome rfl hstands, ?_⟩
          rintro _ ⟨⟩
          rfl

/-- A response has a node for its preferred content, and none without content. -/
theorem responseModel_ok {scope key : String} {content : Content} {model : Option ModelId}
    (h : run (responseModel c scope key content) b = (.ok model, b')) :
    (content.preferred? = none ∧ model = none ∧ b' = b) ∨
      ∃ mediaType media id, content.preferred? = some (mediaType, media) ∧ model = some id ∧
        run (occurrenceOrAny c key (scope ++ key ++ "Response") media.schema) b = (.ok id, b') := by
  rw [responseModel] at h
  split at h
  · next hnone =>
      obtain ⟨rfl, rfl⟩ := run_pure_ok h
      exact .inl ⟨hnone, rfl, rfl⟩
  · next mediaType media hsome =>
      obtain ⟨id, b₁, h₁, h⟩ := run_bind_ok h
      obtain ⟨rfl, rfl⟩ := run_pure_ok h
      exact .inr ⟨mediaType, media, id, hsome, rfl, h₁⟩

/-- A response that is built has a key that denotes its code and says what its reference leads to. -/
theorem response_ok {scope name key : String} {ref : RefOr ResponseSpec} {r : Response}
    (h : run (response c scope name key ref) b = (.ok r, b')) :
    ∃ code spec model, ResponseCode.ofKey? key = some code ∧ c.resolveResponse ref = .ok spec ∧
      run (responseModel c scope key spec.content) b = (.ok model, b') ∧
      r =
        { model := model
          code := code
          mediaTypes := Entries.keys spec.content
          description := spec.description
          vendorExtensions := spec.extra.extensions } := by
  rw [response] at h
  split at h
  · cases h
  · next code hcode =>
      obtain ⟨spec, b₁, h₁, h⟩ := run_bind_ok h
      obtain ⟨hspec, rfl⟩ := run_resolving_ok h₁
      obtain ⟨model, b₂, h₂, h⟩ := run_bind_ok h
      obtain ⟨rfl, rfl⟩ := run_pure_ok h
      exact ⟨code, spec, model, hcode, hspec, h₂, rfl⟩

theorem response_represents {scope name : String} {entry : String × RefOr ResponseSpec}
    {r : Response} (hb : b.Ready c)
    (h : run (response c scope name entry.1 entry.2) b = (.ok r, b')) :
    Steps c (b.registry.nodes.size ≤ ·) b b' ∧ b'.whole.RepresentsResponse c entry r := by
  obtain ⟨code, spec, model, hcode, hspec, hmodel, rfl⟩ := response_ok h
  rcases responseModel_ok hmodel with ⟨hnone, rfl, rfl⟩ | ⟨mediaType, media, id, hsome, rfl, hrun⟩
  · exact ⟨.refl, hcode, spec, hspec, .empty hnone⟩
  · obtain ⟨hsteps, -, m, hm, hocc⟩ := occurrenceOrAny_ok hb hrun
    refine ⟨hsteps, hcode, spec, hspec, .content hsome ⟨⟨m, trivial, hm⟩, fun t ht => ?_⟩⟩
    exact ⟨m, ⟨trivial, hm⟩,
      (hocc t ht).mono (b'.view_le_view fun _ _ => trivial) (Model.Alike.refl m)⟩

/-! ## Operations -/

section Parts

variable {op : Operation} {ps : List Parameter} {body : Option Parameter}

theorem declaredParameters_append (hop : op.parameters = ps ++ body.toList)
    (hps : ∀ p ∈ ps, p.location ≠ .body) (hbody : ∀ p ∈ body, p.location = .body) :
    op.declaredParameters = ps := by
  unfold Operation.declaredParameters
  rw [hop, List.filter_append, List.filter_eq_self.2 (by simpa using hps),
    List.filter_eq_nil_iff.2 (by simpa using hbody), List.append_nil]

theorem body?_append (hop : op.parameters = ps ++ body.toList)
    (hps : ∀ p ∈ ps, p.location ≠ .body) (hbody : ∀ p ∈ body, p.location = .body) :
    op.body? = body := by
  unfold Operation.body?
  rw [hop, List.find?_append, List.find?_eq_none.2 (by simpa using hps)]
  cases body with
  | none => rfl
  | some p => simp [hbody p rfl]

end Parts

/-- An operation that is built follows the references of its parameters, builds these, its body and its
    responses in this order, and consists of what they come to and what it declares itself. -/
theorem operation_ok {options : Options} {path : String} {method : Method}
    {shared : List (RefOr ParameterSpec)} {spec : OperationSpec} {op : Operation}
    (h : run (operation c options path method shared spec) b = (.ok op, b')) :
    ∃ name specs parameters bodies responses b₁ b₂ b₃,
      name = operationName options.naming method path spec.operationId ∧
      mergedParameters c shared spec.parameters = .ok specs ∧
      run (specs.mapM (parameter c (Text.pascalCase name))) b = (.ok parameters, b₁) ∧
      run (body c (Text.pascalCase name) spec.requestBody) b₁ = (.ok bodies, b₂) ∧
      run (spec.responses.mapM fun e => response c (Text.pascalCase name) name e.1 e.2) b₂
        = (.ok responses, b₃) ∧
      b' = b₃.noted (.collected method path name) ∧
      op =
        { path := path
          method := method
          operationId := name
          name := CasedName.ofString name
          uniqueName := name
          tags := distinct spec.tags
          parameters := parameters ++ bodies
          responses := responses.mergeSort fun a b => a.code.le b.code
          summary := spec.summary
          description := spec.description
          deprecated := spec.deprecated.getD false
          vendorExtensions := spec.extra.extensions } := by
  obtain ⟨specs, b₁, h₁, h⟩ := run_bind_ok h
  obtain ⟨hspecs, rfl⟩ := run_resolving_ok h₁
  obtain ⟨parameters, b₂, h₂, h⟩ := run_bind_ok h
  obtain ⟨bodies, b₃, h₃, h⟩ := run_bind_ok h
  obtain ⟨responses, b₄, h₄, h⟩ := run_bind_ok h
  obtain ⟨_, b₅, h₅, h⟩ := run_bind_ok h
  obtain rfl := run_note_ok h₅
  obtain ⟨rfl, rfl⟩ := run_pure_ok h
  exact ⟨_, specs, parameters, bodies, responses, b₂, b₃, b₄, rfl, hspecs, h₂, h₃, h₄, rfl, rfl⟩

theorem operation_represents {options : Options} {path : String} {method : Method}
    {shared : List (RefOr ParameterSpec)} {spec : OperationSpec} {op : Operation} (hb : b.Ready c)
    (h : run (operation c options path method shared spec) b = (.ok op, b')) :
    Steps c (b.registry.nodes.size ≤ ·) b b' ∧
      b'.whole.RepresentsOperation c ⟨path, method, shared, spec⟩ op := by
  obtain ⟨name, specs, parameters, bodies, responses, b₁, b₂, b₃, -, hspecs, h₁, h₂, h₃, rfl, rfl⟩ :=
    operation_ok h
  obtain ⟨hsteps₁, hparameters⟩ := mapM_represents (fun hle hp => hp.mono hle)
    parameter_represents hb h₁
  have hb₁ := Steps.ready hsteps₁ hb
  obtain ⟨hsteps₂, body, rfl, hbody, hlocation⟩ := body_represents hb₁ h₂
  have hb₂ := Steps.ready hsteps₂ hb₁
  obtain ⟨hsteps₃, hresponses⟩ := mapM_represents (fun hle hr => hr.mono hle)
    response_represents hb₂ h₃
  -- what is built later leaves what was built before as it is
  have hrest := Steps.append hsteps₂ hsteps₃ hb₁.sound
  have hall := Steps.append hsteps₁ hrest hb.sound
  have hparameters₃ : List.Forall₂ (b₃.whole.RepresentsParameter c) specs parameters :=
    hparameters.imp fun _ _ hp => hp.mono (Steps.whole_le hrest hb₁.sound)
  have hbody₃ := hbody.mono (Steps.whole_le hsteps₃ hb₂.sound)
  have hdeclared := declared_of_representsParameter hparameters₃
  refine ⟨hall.tail (.note _), rfl, rfl, rfl, ⟨specs, hspecs, ?_⟩, ?_,
    ⟨responses, List.mergeSort_perm _ _, hresponses⟩, ?_⟩
  · rw [declaredParameters_append rfl hdeclared hlocation]
    exact hparameters₃
  · rw [body?_append rfl hdeclared hlocation]
    exact hbody₃
  · intro p hp
    rcases List.mem_append.1 hp with hp | hp
    · obtain ⟨spec, -, hspec⟩ := exists_of_forall₂ hparameters₃ hp
      exact hspec.model.1
    · exact hbody₃.node p (Option.mem_toList.1 hp)

/-- The operations that are collected stand for those that the document declares, in its order. -/
theorem collect_represents {d : Document} {options : Options} {ops : List Operation}
    (hb : b.Ready d.componentsOrNone) (h : run (collect d options) b = (.ok ops, b')) :
    Steps d.componentsOrNone (b.registry.nodes.size ≤ ·) b b' ∧
      List.Forall₂ (b'.whole.RepresentsOperation d.componentsOrNone) d.declaredOperations ops :=
  collect_accumulates (R := fun b => b.whole.RepresentsOperation d.componentsOrNone)
    (accumulates_steps _) (fun hb hle hop => hop.mono (Steps.whole_le hle hb.sound))
    operation_represents hb h

/-- What is known of each operation once it is collected is known of all of them in the end, when it is
    kept in views that are more complete. -/
theorem collect_each {d : Document} {options : Options} {ops : List Operation}
    {R : View → DeclaredOperation → Operation → Prop}
    (hR : ∀ {v v' : View} {decl : DeclaredOperation} {op : Operation},
      v.Le d.componentsOrNone v' → R v decl op → R v' decl op)
    (hop : ∀ {path : String} {method : Method} {shared : List (RefOr ParameterSpec)}
      {spec : OperationSpec} {op : Operation} {b b' : Builder}, b.Ready d.componentsOrNone →
      run (operation d.componentsOrNone options path method shared spec) b = (.ok op, b') →
      R b'.whole ⟨path, method, shared, spec⟩ op)
    (hb : b.Ready d.componentsOrNone) (h : run (collect d options) b = (.ok ops, b')) :
    List.Forall₂ (R b'.whole) d.declaredOperations ops :=
  (collect_accumulates (R := fun b => R b.whole) (accumulates_steps _)
    (fun hb hle hop => hR (Steps.whole_le hle hb.sound) hop)
    (fun hb h => ⟨(operation_represents hb h).1, hop hb h⟩) hb h).2

end Build

end OpenApi
