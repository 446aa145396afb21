import OpenApi.CodeGen.Assembly
import OpenApi.Model.Links
import OpenApi.Model.TypeExpr
import OpenApi.Operation.Collect
import OpenApi.Operation.Finalize

set_option autoImplicit false

/-! # From a document to the data for code generators

A document goes through its stages in order: components, operations, links, composites, identities, names
in the target languages, and the assembly of all. -/

namespace OpenApi

namespace Document

/-- Adds the components and the operations of a document to the graph and links its containers. -/
def buildGraph (d : Document) (options : Options) : Build (List Operation) := do
  Build.addComponents d.componentsOrNone
  Build.note (.declared (← Build.graph).named.length)
  let ops ← Build.collect d options
  Build.linkAll d.componentsOrNone
  pure ops

/-- The graph and the operations of a document. -/
def graphOf (d : Document) (options : Options) :
    Logged (Except BuildError (Registry × List Operation)) :=
  let (result, b) := Build.run (d.buildGraph options) {}
  ⟨b.log, result.map fun ops => (b.registry, ops)⟩

/-- The data of a document whose graph and operations are finished. -/
def assembled (d : Document) (options : Options) (r : Registry) (ops : List Operation) :
    Logged (Except BuildError CodeGenData) :=
  let data := Assembly.logged d.info (r.mapLanguages options.languages)
    (ops.map (Operation.mapLanguages options.languages)) d.vendorExtensions
  ⟨data.log, .ok data.value⟩

/-- The data of a document. -/
def codeGenData (d : Document) (options : Options) : Logged (Except BuildError CodeGenData) :=
  (d.graphOf options).andThen fun (r, ops) =>
    r.flatten.andThen fun r =>
      (Operation.finalize r options.verifyDeduplicatedIds ops).andThen fun ops =>
        d.assembled options r ops

end Document

end OpenApi
