import OpenApi.Document.Schema
import OpenApi.Model.Basic

set_option autoImplicit false

/-! # Forms of schemas

The keywords of a schema decide what kind of node it becomes: its `form`. Alternatives come before
literal values, those before the declared type, and without a type the keywords that only one type
has decide. -/

namespace OpenApi

/-- What a schema becomes in the graph. -/
inductive Form (σ : Type) where
  | composite (c : Combination)
  /-- One of some literal values. -/
  | literal
  | array
  | object
  /-- A map with values of one schema, or with any values. -/
  | dictionary (value : Option σ)
  | primitive (base : String)
  deriving Repr, Inhabited

namespace Form

variable {σ : Type}

/-- Whether schemas of the form always become named models. -/
def isPromoted : Form σ → Bool
  | .composite _ | .object => true
  | _ => false

end Form

namespace SchemaObject

variable {σ : Type}

/-- The form of a schema of type `object`: an object if it has properties or is closed, else a
    dictionary. -/
def objectForm (s : SchemaObject σ) : Form σ :=
  if s.properties.isEmpty then
    match s.additional with
    | some (.schema value) => .dictionary (some value)
    | some (.allowed false) => .object
    | _ => .dictionary none
  else .object

/-- The form of a schema without a type. -/
def untypedForm (s : SchemaObject σ) : Form σ :=
  if s.items.isSome then .array
  else if !s.properties.isEmpty || !s.required.isEmpty then .object
  else match s.additional with
    | some (.schema value) => .dictionary (some value)
    | _ => .primitive "any"

/-- The form of a schema of some type. -/
def typedForm (s : SchemaObject σ) : SchemaType → Form σ
  | .array => .array
  | .object => s.objectForm
  | .string => .primitive (if s.format = some "binary" then "binary" else "string")
  | t => .primitive t.name

/-- The form of a schema. -/
def form (s : SchemaObject σ) : Form σ :=
  if !s.oneOf.isEmpty then .composite .oneOf
  else if !s.anyOf.isEmpty then .composite .anyOf
  else if !s.allOf.isEmpty then .composite .allOf
  else if !s.enum.isEmpty || s.const.isSome then .literal
  else match s.primaryType? with
    | some t => s.typedForm t
    | none => s.untypedForm

/-! ## Literal values -/

/-- The values of a literal schema: those listed, else the constant. -/
def literalValues (s : SchemaObject σ) : List Json :=
  match s.enum, s.const with
  | [], some v => [v]
  | vs, _ => vs

/-- The type of a literal value. -/
def literalBase : Json → String
  | .number (.int _) => "integer"
  | .number (.double _) => "number"
  | .bool _ => "boolean"
  | _ => "string"

/-- The type of the values of a literal schema: the declared one where it is a scalar, else that of
    the first value other than null. -/
def enumBase (s : SchemaObject σ) : String :=
  match s.primaryType? with
  | some .integer => "integer"
  | some .number => "number"
  | some .boolean => "boolean"
  | some .string => "string"
  | _ => match s.literalValues.find? (· ≠ .null) with
    | some v => literalBase v
    | none => "string"

end SchemaObject

end OpenApi
