import OpenApi.Chase
import OpenApi.Model.Basic

set_option autoImplicit false

/-! # The graph of models

`Nodes` are the nodes of the graph in the order of their creation, and a `Registry` adds the index of
the named ones. A reference node leads on to the node that its base type names;
`Registry.canonical` follows these steps to the node that says what a node is. -/

namespace OpenApi

/-- The nodes of a graph. -/
abbrev Nodes := Array Model

namespace Nodes

/-- Where a reference node leads: to the node that its base type names, unless that is itself. -/
def next? (nodes : Nodes) (lookup : String → Option ModelId) (id : ModelId) : Option ModelId := do
  let m ← nodes[id]?
  guard (m.kind = .reference)
  let target ← lookup m.baseType
  guard (target ≠ id)
  pure target

/-- The node at the end of the references from `id`; on a loop, the first node of the chain that lies
    on it. -/
def canonical (nodes : Nodes) (lookup : String → Option ModelId) (id : ModelId) : ModelId :=
  match nodes.next? lookup id with
  | none => id
  | some _ => chase (nodes.next? lookup) ((List.range nodes.size).erase id) id

/-- Changes one node. -/
def update (nodes : Nodes) (id : ModelId) (f : Model → Model) : Nodes := nodes.modify id f

/-- The name of a node; empty outside the graph. -/
def nameAt (nodes : Nodes) (id : ModelId) : String := (nodes[id]?.map (·.name)).getD ""

end Nodes

/-- The nodes with the index of the named ones. -/
structure Registry where
  nodes : Nodes := #[]
  named : Entries ModelId := []
  deriving Inhabited

namespace Registry

/-- A node. -/
def node? (r : Registry) (id : ModelId) : Option Model := r.nodes[id]?

/-- Whether a node is there and has a property. -/
def holds (r : Registry) (id : ModelId) (p : Model → Bool) : Bool := (r.node? id).any p

/-- The node registered under a name. -/
def lookup (r : Registry) (name : String) : Option ModelId := r.named.get? name

/-- The node that says what `id` is. -/
def canonical (r : Registry) (id : ModelId) : ModelId := r.nodes.canonical r.lookup id

/-- Whether a node is registered under its own name. -/
def isNamed (r : Registry) (id : ModelId) : Bool := r.holds id fun m => r.lookup m.name = some id

/-- Whether a node defines a named object, and is neither an alias nor an occurrence. -/
def isObject (r : Registry) (id : ModelId) : Bool :=
  r.holds id fun m => m.kind = .reference && m.baseType = m.name && r.isNamed id

/-- Whether a node is at its end a primitive or an enum. -/
def isScalar (r : Registry) (id : ModelId) : Bool := r.holds (r.canonical id) (·.kind.isScalar)

/-- Whether a node is at its end an array. -/
def isArray (r : Registry) (id : ModelId) : Bool := r.holds (r.canonical id) (·.kind = .array)

/-- The nodes that `id` consists of: its properties and its elements. -/
def children (r : Registry) (id : ModelId) : List ModelId :=
  match r.node? id with
  | some m => m.properties ++ m.link.toList
  | none => []

/-! ## Changes -/

/-- Adds a node and answers its position. -/
def push (r : Registry) (m : Model) : ModelId × Registry :=
  (r.nodes.size, { r with nodes := r.nodes.push m })

/-- Changes one node. -/
def update (r : Registry) (id : ModelId) (f : Model → Model) : Registry :=
  { r with nodes := r.nodes.update id f }

/-- Registers a node under a name. -/
def register (r : Registry) (name : String) (id : ModelId) : Registry :=
  { r with named := r.named.put name id }

end Registry

end OpenApi
