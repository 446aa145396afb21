import OpenApi.Document.Method
import OpenApi.Document.Schema

set_option autoImplicit false

/-! # Documents

The parts of an OpenAPI document that the library understands. Maps keep the order of the document;
the keys that a part does not know are kept in its `extra`, where it has one. -/

namespace OpenApi

/-- A reference to a component, or the thing itself. -/
inductive RefOr (α : Type) where
  | ref (path : String)
  | inline (value : α)
  deriving Repr, Inhabited

/-- Where a declared parameter travels. -/
inductive Place where
  | query
  | header
  | path
  | cookie
  deriving DecidableEq, Repr, Inhabited

namespace Place

/-- All places. -/
def all : List Place := [.query, .header, .path, .cookie]

/-- The name of a place. -/
def name : Place → String
  | .query => "query"
  | .header => "header"
  | .path => "path"
  | .cookie => "cookie"

/-- The place of a name. -/
def ofName? (s : String) : Option Place := all.find? (·.name = s)

end Place

/-- A declared parameter. -/
structure ParameterSpec where
  name : String
  place : Place
  description : Option String := none
  required : Bool := false
  deprecated : Option Bool := none
  schema : Option SchemaOrRef := none
  style : Option String := none
  explode : Option Bool := none
  exampleValue : Option Json := none
  extra : Entries Json := []
  deriving Repr, Inhabited

/-- A body in one media type. -/
structure MediaType where
  schema : Option SchemaOrRef := none
  exampleValue : Option Json := none
  examples : Entries Json := []
  deriving Repr, Inhabited

/-- The bodies of a request or response by media type. -/
abbrev Content := Entries MediaType

/-- The media type that clients speak: JSON when it is offered, else the first one. -/
def Content.preferred? (content : Content) : Option (String × MediaType) :=
  match Entries.get? content "application/json" with
  | some media => some ("application/json", media)
  | none => content.head?

/-- A declared request body. -/
structure RequestBody where
  description : Option String := none
  content : Content := []
  required : Bool := false
  extra : Entries Json := []
  deriving Repr, Inhabited

/-- A declared response. -/
structure ResponseSpec where
  description : String := ""
  content : Content := []
  extra : Entries Json := []
  deriving Repr, Inhabited

/-- A declared operation. -/
structure OperationSpec where
  operationId : Option String := none
  summary : Option String := none
  description : Option String := none
  tags : List String := []
  parameters : List (RefOr ParameterSpec) := []
  requestBody : Option (RefOr RequestBody) := none
  responses : Entries (RefOr ResponseSpec) := []
  deprecated : Option Bool := none
  extra : Entries Json := []
  deriving Repr, Inhabited

/-- A path with its operations. -/
structure PathItem where
  summary : Option String := none
  description : Option String := none
  parameters : List (RefOr ParameterSpec) := []
  get : Option OperationSpec := none
  post : Option OperationSpec := none
  put : Option OperationSpec := none
  delete : Option OperationSpec := none
  patch : Option OperationSpec := none
  options : Option OperationSpec := none
  head : Option OperationSpec := none
  trace : Option OperationSpec := none
  deriving Repr, Inhabited

/-- The operation under a method. -/
def PathItem.operation? (item : PathItem) : Method → Option OperationSpec
  | .get => item.get
  | .post => item.post
  | .put => item.put
  | .delete => item.delete
  | .patch => item.patch
  | .options => item.options
  | .head => item.head
  | .trace => item.trace

/-- The reusable parts of a document. -/
structure Components where
  schemas : Entries SchemaOrRef := []
  responses : Entries (RefOr ResponseSpec) := []
  parameters : Entries (RefOr ParameterSpec) := []
  requestBodies : Entries (RefOr RequestBody) := []
  deriving Repr, Inhabited

/-- What a document says about itself. -/
structure Info where
  title : String
  description : Option String := none
  version : String
  deriving DecidableEq, Repr, Inhabited

/-- A declared tag. -/
structure Tag where
  name : String
  description : Option String := none
  deriving DecidableEq, Repr, Inhabited

/-- An OpenAPI document. -/
structure Document where
  openapi : String
  info : Info
  paths : Entries PathItem := []
  components : Option Components := none
  tags : List Tag := []
  extra : Entries Json := []
  deriving Repr, Inhabited

namespace Document

/-- The components, none when the document has no such part. -/
def componentsOrNone (d : Document) : Components := d.components.getD {}

/-- The vendor extensions of the document, in order. -/
def vendorExtensions (d : Document) : Entries Json := d.extra.extensions

end Document

end OpenApi
