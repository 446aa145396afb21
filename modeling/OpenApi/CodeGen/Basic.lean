import OpenApi.Document.Basic
import OpenApi.Model.Registry
import OpenApi.Operation.Basic

set_option autoImplicit false

/-! # Data for code generators

`CodeGenData` is what a generator gets to see of a document: the nodes with the named models in the order
of their names, the operations with the services that they form, and the places of vendor extensions.
Models are found by binary search. -/

namespace OpenApi

/-- The operations of one tag, or those without tags. -/
structure Service where
  name : CasedName
  tag : Option String
  /-- Positions in the list of all operations. -/
  operations : List Nat
  deriving DecidableEq, Repr, Inhabited

/-- A place that carries a vendor extension. Operations, and what they consist of, are given by
    position. -/
inductive ExtensionSite where
  | document
  | model (id : ModelId)
  | operation (index : Nat)
  | parameter (operation index : Nat)
  | response (operation index : Nat)
  deriving DecidableEq, Repr, Inhabited

/-- What a code generator gets to see. -/
structure CodeGenData where
  info : Info
  nodes : Nodes
  /-- The named models in the order of their names. -/
  models : Array ModelId
  services : List Service
  operations : List Operation
  /-- For every tag, the positions of its operations. -/
  operationsByTag : Entries (List Nat)
  /-- The positions of the operations without tags. -/
  untaggedOperations : List Nat
  vendorExtensions : Entries Json
  /-- For every extension, the places that carry it. -/
  extensionSites : Entries (List ExtensionSite)
  deriving Inhabited

namespace CodeGenData

/-- Finds the model of a name among those at the positions from `low` up to `high`. -/
def findBetween (d : CodeGenData) (name : String) (low high : Nat) : Option ModelId :=
  if low < high then
    let middle := (low + high) / 2
    match d.models[middle]? with
    | none => none
    | some id =>
        let found := d.nodes.nameAt id
        if found = name then some id
        else if found < name then d.findBetween name (middle + 1) high
        else d.findBetween name low middle
  else none
termination_by high - low
decreasing_by all_goals omega

/-- The model of a name. -/
def findModel? (d : CodeGenData) (name : String) : Option ModelId :=
  d.findBetween name 0 d.models.size

/-- The node that says what `id` is. -/
def canonical (d : CodeGenData) (id : ModelId) : ModelId := d.nodes.canonical d.findModel? id

/-- The operation of a unique name. -/
def operation? (d : CodeGenData) (uniqueName : String) : Option Operation :=
  d.operations.find? (·.uniqueName = uniqueName)

/-- The service of a tag, or that of the operations without tags. -/
def service? (d : CodeGenData) (tag : Option String) : Option Service :=
  d.services.find? (·.tag = tag)

end CodeGenData

end OpenApi
