import OpenApi.Json.Basic

set_option autoImplicit false

/-! # Schemas

A schema of a document is either a reference to a component or an inline schema object. The keywords
that the library understands are fields of `SchemaObject`, over the type of its subschemas; every
other keyword is kept in `extra` in order. -/

namespace OpenApi

/-- A value of the keyword `type`. -/
inductive SchemaType where
  | string
  | number
  | integer
  | boolean
  | array
  | object
  | null
  deriving DecidableEq, Repr, Inhabited

namespace SchemaType

/-- All types. -/
def all : List SchemaType := [.string, .number, .integer, .boolean, .array, .object, .null]

/-- The name of a type. -/
def name : SchemaType → String
  | .string => "string"
  | .number => "number"
  | .integer => "integer"
  | .boolean => "boolean"
  | .array => "array"
  | .object => "object"
  | .null => "null"

/-- The type of a name. -/
def ofName? (s : String) : Option SchemaType := all.find? (·.name = s)

theorem ofName?_name (t : SchemaType) : ofName? t.name = some t := by cases t <;> decide

end SchemaType

/-- One type, or a list of types. -/
inductive TypeSet where
  | single (t : SchemaType)
  | multiple (ts : List SchemaType)
  deriving DecidableEq, Repr, Inhabited

/-- The first type other than `null`, or `null` when it is the only one. -/
def TypeSet.primary? : TypeSet → Option SchemaType
  | .single t => some t
  | .multiple ts => (ts.find? (· ≠ .null)).or ts.head?

/-- How the alternatives of a composite are told apart. -/
structure Discriminator where
  propertyName : String
  mapping : Entries String := []
  deriving DecidableEq, Repr, Inhabited

/-- What an object allows beyond its declared properties. -/
inductive Additional (σ : Type) where
  | allowed (b : Bool)
  | schema (s : σ)
  deriving Repr, Inhabited

/-- The keywords of a schema whose subschemas are of type `σ`. -/
structure SchemaObject (σ : Type) where
  type : Option TypeSet := none
  format : Option String := none
  title : Option String := none
  description : Option String := none
  default : Option Json := none
  nullable : Option Bool := none
  properties : List (String × σ) := []
  required : List String := []
  additional : Option (Additional σ) := none
  items : Option σ := none
  allOf : List σ := []
  oneOf : List σ := []
  anyOf : List σ := []
  discriminator : Option Discriminator := none
  enum : List Json := []
  readOnly : Option Bool := none
  writeOnly : Option Bool := none
  deprecated : Option Bool := none
  const : Option Json := none
  exampleValue : Option Json := none
  extra : Entries Json := []
  deriving Repr, Inhabited

/-- A reference to a component, or an inline schema. -/
inductive SchemaOrRef where
  | ref (path : String) (nullable : Option Bool)
  | inline (schema : SchemaObject SchemaOrRef)
  deriving Repr, Inhabited

/-- A schema object of a document. -/
abbrev Schema := SchemaObject SchemaOrRef

namespace SchemaObject

variable {σ : Type}

/-- The type that decides the shape of the schema. -/
def primaryType? (s : SchemaObject σ) : Option SchemaType := s.type.bind TypeSet.primary?

/-- The vendor extensions of the schema, in order. -/
def vendorExtensions (s : SchemaObject σ) : Entries Json := s.extra.extensions

end SchemaObject

/-- The path of a reference. -/
def SchemaOrRef.path? : SchemaOrRef → Option String
  | .ref path _ => some path
  | .inline _ => none

end OpenApi
