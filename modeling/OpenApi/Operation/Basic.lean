import OpenApi.Document.Method
import OpenApi.Model.Basic
import OpenApi.Naming.CasedName
import OpenApi.Operation.CollectionFormat
import OpenApi.Operation.ResponseCode

set_option autoImplicit false

/-! # Operations

An operation with all its references followed: its parameters and responses point into the graph of
models. -/

namespace OpenApi

/-- A parameter of an operation, or its body. -/
structure Parameter where
  model : ModelId
  location : Location
  /-- The name in requests. -/
  name : String
  /-- The name in programs, in camel case. -/
  prop : String
  mediaType : Option String := none
  collectionFormat : Option CollectionFormat := none
  isRequired : Bool := false
  /-- Whether the properties of a body stand beside the other parameters. -/
  inlined : Bool := false
  description : Option String := none
  vendorExtensions : Entries Json := []
  deriving DecidableEq, Repr, Inhabited

/-- A response of an operation; without a model it has no body. -/
structure Response where
  model : Option ModelId := none
  code : ResponseCode
  mediaTypes : List String := []
  description : String := ""
  vendorExtensions : Entries Json := []
  deriving DecidableEq, Repr, Inhabited

/-- An operation. -/
structure Operation where
  path : String
  method : Method
  /-- The declared id, or a name made from the route. -/
  operationId : String
  /-- The name under which the operation is rendered. -/
  name : CasedName
  /-- The name that tells the operation from all others. -/
  uniqueName : String
  /-- The id with each of the tags. -/
  tagIdentities : List String := []
  tags : List String := []
  parameters : List Parameter := []
  responses : List Response := []
  /-- The code of the response that is the result. -/
  result : Option ResponseCode := none
  summary : Option String := none
  description : Option String := none
  deprecated : Bool := false
  vendorExtensions : Entries Json := []
  identifiers : PerLanguage String := {}
  deriving DecidableEq, Repr, Inhabited

namespace Operation

/-- The response that is the result. -/
def resultResponse? (op : Operation) : Option Response :=
  op.result.bind fun code => op.responses.find? (·.code = code)

/-- The body. -/
def body? (op : Operation) : Option Parameter := op.parameters.find? (·.location = .body)

/-- The parameters other than the body. -/
def declaredParameters (op : Operation) : List Parameter :=
  op.parameters.filter (·.location ≠ .body)

end Operation

end OpenApi
