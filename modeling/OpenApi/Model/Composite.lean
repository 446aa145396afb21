import OpenApi.Logged
import OpenApi.Model.Registry

set_option autoImplicit false

/-! # Flattening composites

Once all containers are linked, the constituents of every named composite are split into references to
models and the rest. A composite whose alternatives could not be told apart by the data alone is
refused on the way, as is an `allOf` of something that has no properties. -/

namespace OpenApi

namespace Registry

/-! ## Judging constituents -/

/-- From an array to the node that says what its elements are. -/
def element? (r : Registry) (id : ModelId) : Option ModelId := do
  let m ← r.node? id
  guard (m.kind = .array)
  pure (r.canonical (← m.link))

/-- The innermost elements of nested arrays. Where arrays hold themselves, or hold nothing, it is one
    of these arrays. -/
def innermost (r : Registry) (id : ModelId) : ModelId :=
  chase r.element? ((List.range r.nodes.size).erase (r.canonical id)) (r.canonical id)

/-- Whether a node is an array whose innermost elements are not scalars. -/
def isObjectArray (r : Registry) (id : ModelId) : Bool :=
  r.holds id (·.kind = .array) && !r.isScalar (r.innermost id)

/-- Whether a node refers to a named model that is more than a scalar. -/
def refersToModel (r : Registry) (id : ModelId) : Bool :=
  r.holds id (·.kind = .reference) && !r.isScalar id

/-- The constituents that refer to models. -/
def modelsOf (r : Registry) (m : Model) : List ModelId := m.properties.filter r.refersToModel

/-- The other constituents. -/
def primitivesOf (r : Registry) (m : Model) : List ModelId :=
  m.properties.filter fun id => !r.refersToModel id

/-- Why a composite is refused. -/
def refusal? (r : Registry) (m : Model) : Option BuildError :=
  if 1 < (r.primitivesOf m).countP r.isObjectArray then some (.ambiguousComposite m.name)
  else if m.kind = .composite .allOf then
    (r.primitivesOf m).head?.map fun id => .invalidAllOf m.name (r.nodes.nameAt id)
  else none

/-! ## Flattening -/

/-- The composites among the named models, in the order of their names' arrival. -/
def composites (r : Registry) : List ModelId :=
  (r.named.map Prod.snd).filter fun id => r.holds id (·.kind.isComposite)

/-- Writes down how the constituents of a composite are split. -/
def split (r : Registry) (m : Model) : Model :=
  { m with composedModels := r.modelsOf m, composedPrimitives := r.primitivesOf m }

/-- What is said of a composite that is split. -/
def splitEvent (r : Registry) (m : Model) : Event :=
  .flattened m.name (r.modelsOf m).length (r.primitivesOf m).length

/-- Splits the given composites, up to the first one that is refused. -/
def flattenEach (r : Registry) : List ModelId → Registry → Logged (Except BuildError Registry)
  | [], done => .silent (.ok done)
  | id :: rest, done => match r.node? id with
    | none => r.flattenEach rest done
    | some m => match r.refusal? m with
      | some e => .silent (.error e)
      | none =>
          let next := r.flattenEach rest (done.update id r.split)
          { next with log := r.splitEvent m :: next.log }

/-- Splits every named composite. How a constituent is judged does not depend on the split of others,
    so all are judged in the graph as it was. -/
def flatten (r : Registry) : Logged (Except BuildError Registry) := r.flattenEach r.composites r

/-! ## Responses -/

/-- Whether a response of the node cannot be decoded, since it is one of several scalars. -/
def isAmbiguousResponse (r : Registry) (id : ModelId) : Bool :=
  r.holds (r.canonical id) fun m =>
    (m.kind = .composite .oneOf || m.kind = .composite .anyOf)
      && m.composedModels.isEmpty
      && !m.composedPrimitives.any (fun c => r.holds c (·.kind.isContainer))
      && 2 ≤ m.composedPrimitives.length

end Registry

end OpenApi
