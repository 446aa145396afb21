import OpenApi.Document.Reference
import OpenApi.Log
import OpenApi.Model.Form
import OpenApi.Model.Registry
import OpenApi.Text.Words

set_option autoImplicit false

/-! # Building the graph of models

A `Builder` is a graph under construction. Schemas are added to it in two ways: every component is
declared first and filled then (`Build.addComponents`), and a schema found anywhere else becomes a new
nameless node (`Build.occurrence`). Inline objects and composites are promoted on the way: they become
named models of their own, and the place where they stand refers to them.

The elements of a container are not built with it. They wait as an `ElementSource`, since the
container may be one of its own elements; `Build.linkTarget` builds them later. -/

namespace OpenApi

/-- The schema of a container's elements, waiting to be built. -/
structure ElementSource where
  /-- The name from which the names of promoted schemas are made. -/
  hint : String
  /-- The schema; without one, the elements may be anything. -/
  schema : Option SchemaOrRef
  deriving Repr, Inhabited

/-- A graph under construction. -/
structure Builder where
  registry : Registry := {}
  /-- The names that are taken. -/
  usedNames : List String := []
  /-- The containers whose elements wait to be built. -/
  pending : List (ModelId × ElementSource) := []
  log : List Event := []
  deriving Inhabited

/-- A step of the construction. A step that fails keeps what it has done so far. -/
abbrev Build (α : Type) := ExceptT BuildError (StateM Builder) α

/-! ## Free names -/

/-- The first of `base` with the numbers from `i` on that is not used. -/
def numberedName (base : String) (i : Nat) (used : List String) : String :=
  let candidate := base ++ toString i
  if candidate ∈ used then numberedName base (i + 1) (used.erase candidate) else candidate
termination_by used.length
decreasing_by
  next h => exact length_erase_lt_of_mem h

/-- A name that is not used: the hint in Pascal case, followed by the least number from two on that
    makes it free if it is not so by itself. -/
def freeName (used : List String) (hint : String) : String :=
  let base := Text.pascalCase hint
  if base ∈ used then numberedName base 2 used else base

namespace Builder

/-- A container's waiting elements. -/
def source? (b : Builder) (id : ModelId) : Option ElementSource :=
  (b.pending.find? (·.1 = id)).map Prod.snd

/-- Nothing waits under `id` any more. -/
def dropSource (b : Builder) (id : ModelId) : Builder :=
  { b with pending := b.pending.filter (·.1 ≠ id) }

end Builder

namespace Build

/-! ## Single steps -/

/-- Fails for a reason. -/
def fail {α : Type} (e : BuildError) : Build α := throw e

/-- Goes on with the result of following references. -/
def resolving {α : Type} (r : Except ResolveError α) : Build α :=
  match r with
  | .ok a => pure a
  | .error e => fail (.resolve e)

/-- Says something. -/
def note (e : Event) : Build Unit := modify fun b => { b with log := b.log ++ [e] }

/-- The graph so far. -/
def graph : Build Registry := do pure (← get).registry

/-- Adds a node. -/
def push (m : Model) : Build ModelId :=
  modifyGet fun b =>
    let r := b.registry.push m
    (r.1, { b with registry := r.2 })

/-- Changes a node. -/
def update (id : ModelId) (f : Model → Model) : Build Unit :=
  modify fun b => { b with registry := b.registry.update id f }

/-- Adds a node and registers it under its name. -/
def declare (name : String) : Build ModelId :=
  modifyGet fun b =>
    let r := b.registry.push (Model.any name)
    (r.1, { b with registry := r.2.register name r.1, usedNames := b.usedNames.insert name })

/-- Lets the elements of a container wait. -/
def await (id : ModelId) (source : ElementSource) : Build Unit :=
  modify fun b => { b with pending := (id, source) :: b.pending }

/-- Declares a new model under a free name and fills it; answers the name with the node. -/
def promote (hint : String) (fill : ModelId → String → Build Unit) : Build (String × ModelId) := do
  let name := freeName (← get).usedNames hint
  note (.promoting name)
  let id ← declare name
  fill id name
  pure (name, id)

/-! ## Nodes of schemas -/

/-- What a schema says about its node whatever its form. -/
def describe {σ : Type} (s : SchemaObject σ) (m : Model) : Model :=
  { m with
    description := s.description
    format := s.format
    isNullable := s.nullable.getD false
    isReadOnly := s.readOnly.getD false
    deprecated := s.deprecated.getD false
    vendorExtensions := s.vendorExtensions }

/-- The discriminator of a composite; values that refer to a component name its model. -/
def discriminator (d : Discriminator) : ModelDiscriminator where
  propertyName := d.propertyName
  mapping := Entries.mapValues (fun target => (Reference.name? "schemas" target).toOption.getD target)
    d.mapping

/-- A node that refers to a named model. -/
def referenceTo (name target : String) (nullable : Option Bool) : Model :=
  { name := name, kind := .reference, baseType := target, isNullable := nullable.getD false }

/-- What its parent says about the node of a property. -/
def propertyFlags (isRequired : Bool) (s : SchemaOrRef) (m : Model) : Model :=
  match s with
  | .ref .. => { m with isRequired := isRequired }
  | .inline s => { m with isRequired := isRequired, isReadOnly := s.readOnly.getD false }

/-- What makes a node that of a literal schema. -/
def makeEnum {σ : Type} (s : SchemaObject σ) (m : Model) : Model :=
  { m with kind := .enum, baseType := s.enumBase, enumValues := s.literalValues }

/-- Gives a node its kind and base type. -/
def setKind (id : ModelId) (kind : ModelKind) (baseType : String) : Build Unit :=
  update id fun m => { m with kind := kind, baseType := baseType }

/-- Makes a node an object of the given name with the properties that `build` adds. -/
def makeObject (id : ModelId) (name : String) (build : Build (List ModelId)) : Build Unit := do
  setKind id .reference name
  let properties ← build
  update id fun m => { m with properties := properties }

/-- Makes a node a composite of the given name with the constituents that `build` adds. -/
def makeComposite (id : ModelId) (name : String) (c : Combination) (d : Option Discriminator)
    (build : Build (List ModelId)) : Build Unit := do
  setKind id (.composite c) name
  let constituents ← build
  update id fun m =>
    { m with properties := constituents, discriminator := d.map discriminator }

/-- Makes a node a container whose elements wait. -/
def makeContainer (id : ModelId) (kind : ModelKind) (source : ElementSource) : Build Unit := do
  setKind id kind kind.name
  await id source

/-- The constituents of a composite. An `allOf` has those of its branches and those of its own
    properties. -/
def constituents (c : Combination) (oneOf anyOf allOf own : Build (List ModelId)) :
    Build (List ModelId) :=
  match c with
  | .oneOf => oneOf
  | .anyOf => anyOf
  | .allOf => do pure ((← allOf) ++ (← own))

/-- The constituent for the properties of a schema that is an `allOf` as well: a promoted object,
    where there are any. -/
def ownProperties {σ : Type} (parent : String) (s : SchemaObject σ)
    (build : String → Build (List ModelId)) : Build (List ModelId) :=
  if s.properties.isEmpty then pure []
  else do
    let hint := parent ++ "Properties"
    let (target, _) ← promote hint fun id target => makeObject id target (build target)
    pure [← push (referenceTo hint target none)]

/-- The name of a constituent: that of the component it refers to, else its hint. -/
def branchName (c : Components) (hint : String) : SchemaOrRef → Build String
  | .ref path _ => resolving (c.targetName path)
  | .inline _ => pure hint

mutual

/-- Adds a nameless node for a schema found under `name`. Promoted schemas take their names from
    `hint`. -/
def occurrence (c : Components) (name hint : String) : SchemaOrRef → Build ModelId
  | .ref path nullable => do
      let target ← resolving (c.targetName path)
      push (referenceTo name target nullable)
  | .inline s =>
      if s.form.isPromoted then do
        let (target, _) ← promote hint fun id target => fill c id target s
        push { referenceTo name target s.nullable with description := s.description }
      else do
        let id ← push (Model.any name)
        fill c id hint s
        pure id

/-- Makes a node that of an inline schema. An object or composite has the name `hint`. -/
def fill (c : Components) (id : ModelId) (hint : String) (s : SchemaObject SchemaOrRef) :
    Build Unit := do
  update id (describe s)
  match s.form with
  | .object => makeObject id hint (properties c hint s.required s.properties)
  | .composite k =>
      makeComposite id hint k s.discriminator <|
        constituents k (branches c hint 1 [] s.oneOf) (branches c hint 1 [] s.anyOf)
          (branches c hint 1 [] s.allOf)
          (ownProperties hint s fun target => properties c target s.required s.properties)
  | .literal => update id (makeEnum s)
  | .array => makeContainer id .array ⟨hint ++ "Item", s.items⟩
  | .dictionary value => makeContainer id .dictionary ⟨hint ++ "Value", value⟩
  | .primitive base => setKind id .primitive base

/-- The nodes of an object's properties. -/
def properties (c : Components) (parent : String) (required : List String) :
    List (String × SchemaOrRef) → Build (List ModelId)
  | [] => pure []
  | (field, s) :: rest => do
      let id ← occurrence c field (parent ++ Text.pascalCase field) s
      update id (propertyFlags (required.contains field) s)
      let ids ← properties c parent required rest
      pure (id :: ids)

/-- The nodes of a composite's constituents from position `i` on. A branch that is the same schema as
    one of those before it is left out. -/
def branches (c : Components) (parent : String) (i : Nat) (seen : List SchemaOrRef) :
    List SchemaOrRef → Build (List ModelId)
  | [] => pure []
  | s :: rest =>
      if seen.any (c.sameSchema · s) then do
        note (.droppingConstituent parent i)
        branches c parent (i + 1) seen rest
      else do
        let hint := parent ++ "Variant" ++ toString i
        let name ← branchName c hint s
        let id ← occurrence c name hint s
        let ids ← branches c parent (i + 1) (seen ++ [s]) rest
        pure (id :: ids)

end

/-! ## Components and elements -/

/-- Fills the node of a component. A chain of references must end at a schema. -/
def fillComponent (c : Components) (id : ModelId) (name : String) : SchemaOrRef → Build Unit
  | .ref path nullable => do
      let target ← resolving (c.targetName path)
      let _ ← resolving (c.canonicalName path)
      update id fun m =>
        { m with kind := .reference, baseType := target, isNullable := nullable.getD false }
  | .inline s => fill c id name s

/-- Fills the declared components. -/
def fillComponents (c : Components) : List (String × SchemaOrRef) → Build Unit
  | [] => pure ()
  | (name, s) :: rest => do
      match (← graph).lookup name with
      | some id => do
          note (.building name)
          fillComponent c id name s
      | none => pure ()
      fillComponents c rest

/-- Declares every component and fills it. References find their targets because all components are
    declared before any is filled. -/
def addComponents (c : Components) : Build Unit := do
  c.schemas.forM fun entry => discard (declare entry.1)
  fillComponents c c.schemas

/-- The node that a container is linked to: the named model for references and promoted schemas, and
    a new nameless node for all others. -/
def linkTarget (c : Components) (hint : String) : SchemaOrRef → Build ModelId
  | .ref path _ => do
      let target ← resolving (c.targetName path)
      let r ← graph
      match r.lookup target with
      | some id => pure (r.canonical id)
      | none => fail (.resolve (.notFound path))
  | .inline s =>
      if s.form.isPromoted then do
        let (_, id) ← promote hint fun id target => fill c id target s
        pure id
      else occurrence c hint hint (.inline s)

end Build

end OpenApi
