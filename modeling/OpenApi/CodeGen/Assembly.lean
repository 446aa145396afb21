import OpenApi.CodeGen.Basic
import OpenApi.Distinct
import OpenApi.Logged

set_option autoImplicit false

/-! # Assembling data for code generators

The graph and the operations are put in order: operations whose unique name is taken are dropped, models
are sorted by name, operations are grouped by tag, and the places of vendor extensions are listed by
key. -/

namespace OpenApi

namespace Assembly

/-! ## Operations -/

/-- The first operation of each unique name, where those in `seen` are taken already. -/
def keptOperations (seen : List String) : List Operation → List Operation
  | [] => []
  | op :: ops =>
      if op.uniqueName ∈ seen then keptOperations seen ops
      else op :: keptOperations (op.uniqueName :: seen) ops

/-- The operations that are not the first ones of their unique names. -/
def droppedOperations (seen : List String) : List Operation → List Operation
  | [] => []
  | op :: ops =>
      if op.uniqueName ∈ seen then op :: droppedOperations seen ops
      else droppedOperations (op.uniqueName :: seen) ops

/-- What is said of a dropped operation. -/
def dropEvent (op : Operation) : Event := .droppingOperation op.method op.path op.uniqueName

/-! ## Order by name -/

/-- Texts in ascending order without repetitions. -/
def sortedDistinct (names : List String) : List String :=
  distinct (names.mergeSort fun a b => decide (a ≤ b))

/-- The named models in the order of their names. -/
def sortedModels (r : Registry) : List ModelId :=
  (r.named.map Prod.snd).mergeSort fun a b => decide (r.nodes.nameAt a ≤ r.nodes.nameAt b)

/-! ## Services -/

/-- The positions of the operations with a tag, each as often as the operation has it. -/
def positionsOf (ops : List Operation) (tag : String) : List Nat :=
  ops.zipIdx.flatMap fun (op, i) => List.replicate (op.tags.count tag) i

/-- The positions of the operations without tags. -/
def untaggedPositions (ops : List Operation) : List Nat :=
  ops.zipIdx.filterMap fun (op, i) => if op.tags.isEmpty then some i else none

/-- For every tag, in ascending order, the positions of its operations. -/
def positionsByTag (ops : List Operation) : Entries (List Nat) :=
  (sortedDistinct (ops.flatMap (·.tags))).map fun tag => (tag, positionsOf ops tag)

/-- The service of the operations without tags, if there are any. -/
def defaultService (ops : List Operation) : List Service :=
  match untaggedPositions ops with
  | [] => []
  | positions => [{ name := CasedName.ofString "default", tag := none, operations := positions }]

/-- The service of a tag. -/
def taggedService (entry : String × List Nat) : Service :=
  { name := CasedName.ofString entry.1, tag := some entry.1, operations := entry.2 }

/-- The services: that without a tag first, then the tags in ascending order. -/
def services (ops : List Operation) : List Service :=
  defaultService ops ++ (positionsByTag ops).map taggedService

/-! ## Places of extensions -/

/-- Each key of some extensions with a place. -/
def mark (extensions : Entries Json) (site : ExtensionSite) : List (String × ExtensionSite) :=
  (Entries.keys extensions).map (·, site)

/-- The keys of an operation with their places: its own, those of its parameters, those of its
    responses. -/
def operationSites (op : Operation) (i : Nat) : List (String × ExtensionSite) :=
  mark op.vendorExtensions (.operation i)
    ++ op.parameters.zipIdx.flatMap (fun (p, j) => mark p.vendorExtensions (.parameter i j))
    ++ op.responses.zipIdx.flatMap (fun (r, j) => mark r.vendorExtensions (.response i j))

/-- All keys with their places: the document, the nodes, the operations. -/
def markedSites (document : Entries Json) (nodes : Nodes) (ops : List Operation) :
    List (String × ExtensionSite) :=
  mark document .document
    ++ nodes.toList.zipIdx.flatMap (fun (m, i) => mark m.vendorExtensions (.model i))
    ++ ops.zipIdx.flatMap fun (op, i) => operationSites op i

/-- The values under one key, in order. -/
def valuesOf {α : Type} (pairs : List (String × α)) (key : String) : List α :=
  pairs.filterMap fun pair => if pair.1 = key then some pair.2 else none

/-- The values of each key, keys in ascending order. -/
def grouped {α : Type} (pairs : List (String × α)) : Entries (List α) :=
  (sortedDistinct (pairs.map Prod.fst)).map fun key => (key, valuesOf pairs key)

/-! ## Everything together -/

/-- The data of a graph and its operations. -/
def assemble (info : Info) (r : Registry) (all : List Operation) (extensions : Entries Json) :
    CodeGenData :=
  let ops := keptOperations [] all
  { info := info
    nodes := r.nodes
    models := (sortedModels r).toArray
    services := services ops
    operations := ops
    operationsByTag := positionsByTag ops
    untaggedOperations := untaggedPositions ops
    vendorExtensions := extensions
    extensionSites := grouped (markedSites extensions r.nodes ops) }

/-- What is said while the data is assembled. -/
def events (all : List Operation) (d : CodeGenData) : List Event :=
  (droppedOperations [] all).map dropEvent
    ++ [.assembled d.models.size d.operations.length d.services.length]

/-- The data of a graph and its operations, with what is said of it. -/
def logged (info : Info) (r : Registry) (all : List Operation) (extensions : Entries Json) :
    Logged CodeGenData :=
  let d := assemble info r all extensions
  ⟨events all d, d⟩

end Assembly

end OpenApi
