import OpenApi.Model.Composite
import OpenApi.Naming.Identifier
import OpenApi.Operation.Identity
import OpenApi.Options

set_option autoImplicit false

/-! # Finishing operations

What needs all operations and the flattened graph: identities, the result of each operation, whether its
body is inlined, and the refusal of responses that cannot be decoded. -/

namespace OpenApi

namespace Operation

/-- Whether a body of the given node stands by its properties: there is nothing beside it, or it is an
    object and none of its properties has the name of another parameter. -/
def inlinesBody (r : Registry) (op : Operation) (model : ModelId) : Bool :=
  let others := op.declaredParameters.map (·.name)
  let target := r.canonical model
  others.isEmpty
    || (r.isObject target
      && r.holds target fun m => m.properties.all fun p => !others.contains (r.nodes.nameAt p))

/-- Marks the first body among some parameters. -/
def markBody (inlined : ModelId → Bool) : List Parameter → List Parameter
  | [] => []
  | p :: ps =>
      if p.location = .body then { p with inlined := inlined p.model } :: ps
      else p :: markBody inlined ps

/-- The first response that cannot be decoded. -/
def ambiguousResponse? (r : Registry) (op : Operation) : Option Response :=
  op.responses.find? fun response => response.model.any r.isAmbiguousResponse

/-- Settles the result of an operation and its body. -/
def settle (r : Registry) (op : Operation) : Operation :=
  { op with
    result := ResponseCode.result? (op.responses.map (·.code))
    parameters := markBody (op.inlinesBody r) op.parameters }

/-- Settles an operation whose responses can all be decoded. -/
def settle? (r : Registry) (op : Operation) : Except BuildError Operation :=
  match op.ambiguousResponse? r with
  | some response => .error (.ambiguousResponse op.operationId response.code.text)
  | none => .ok (op.settle r)

/-- Finishes the operations of a document. -/
def finalize (r : Registry) (verify : Bool) (ops : List Operation) :
    Logged (Except BuildError (List Operation)) :=
  (identifyAll verify ops).andThen fun ops => .silent (ops.mapM (settle? r))

/-- Names an operation in the given languages. -/
def mapLanguages (langs : List Language) (op : Operation) : Operation :=
  { op with
    identifiers := PerLanguage.fill {} langs fun lang => identifier op.name.text .operation lang }

end Operation

end OpenApi
