import OpenApi.Json.Basic
import OpenApi.Naming.Language

set_option autoImplicit false

/-! # Models

The schemas of a document become nodes of a graph. A node is named when it is registered under its
name: the component schemas, and inline schemas that deserve a type of their own. Every other node is
an occurrence, which carries the name of the field, parameter or response it was found at. -/

namespace OpenApi

/-- The position of a node in the graph. -/
abbrev ModelId := Nat

/-- How the alternatives of a composite are combined. -/
inductive Combination where
  | oneOf
  | anyOf
  | allOf
  deriving DecidableEq, Repr, Inhabited

/-- The shape of a node. -/
inductive ModelKind where
  | primitive
  /-- A named object, or an occurrence of a named model. -/
  | reference
  | array
  | dictionary
  | enum
  | composite (c : Combination)
  deriving DecidableEq, Repr, Inhabited

namespace ModelKind

/-- The name of a kind. -/
def name : ModelKind → String
  | .primitive => "primitive"
  | .reference => "reference"
  | .array => "array"
  | .dictionary => "dictionary"
  | .enum => "enum"
  | .composite .oneOf => "one-of"
  | .composite .anyOf => "any-of"
  | .composite .allOf => "all-of"

/-- All kinds. -/
def all : List ModelKind :=
  [.primitive, .reference, .array, .dictionary, .enum, .composite .oneOf, .composite .anyOf,
    .composite .allOf]

/-- The kind of a name. -/
def ofName? (s : String) : Option ModelKind := all.find? (·.name = s)

/-- Whether nodes of the kind combine other nodes. -/
def isComposite : ModelKind → Bool
  | .composite _ => true
  | _ => false

/-- Whether nodes of the kind hold elements. -/
def isContainer : ModelKind → Bool
  | .array | .dictionary => true
  | _ => false

/-- Whether nodes of the kind hold a single value. -/
def isScalar : ModelKind → Bool
  | .primitive | .enum => true
  | _ => false

end ModelKind

/-- How a node is called in one language. -/
structure MappedType where
  type : String
  identifier : String
  deriving DecidableEq, Repr, Inhabited

/-- How the alternatives of a composite model are told apart: by a property whose values name
    models. -/
structure ModelDiscriminator where
  propertyName : String
  mapping : Entries String := []
  deriving DecidableEq, Repr, Inhabited

/-- A node. -/
structure Model where
  name : String
  kind : ModelKind
  /-- The primitive type, `array` or `dictionary`, or the name of the model referred to. -/
  baseType : String
  format : Option String := none
  description : Option String := none
  /-- The properties of an object, or the constituents of a composite. -/
  properties : List ModelId := []
  /-- The node of the elements of a container. -/
  link : Option ModelId := none
  enumValues : List Json := []
  isNullable : Bool := false
  isRequired : Bool := false
  isReadOnly : Bool := false
  deprecated : Bool := false
  /-- The constituents that refer to models. -/
  composedModels : List ModelId := []
  /-- The other constituents. -/
  composedPrimitives : List ModelId := []
  discriminator : Option ModelDiscriminator := none
  mapped : PerLanguage MappedType := {}
  vendorExtensions : Entries Json := []
  deriving DecidableEq, Repr, Inhabited

/-- A node that admits anything. -/
def Model.any (name : String) : Model := { name := name, kind := .primitive, baseType := "any" }

end OpenApi
