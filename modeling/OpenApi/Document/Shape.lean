import OpenApi.Document.Basic
import OpenApi.Document.SchemaShape

set_option autoImplicit false

/-! # Documents as JSON

Each part of a document has its record shape, by which it is read, and a `toJson`, which leaves out
what is absent or empty. `Document.ofJson` and `Document.toJson` are the two ends. -/

namespace OpenApi

/-! ## References -/

namespace RefOr

variable {α : Type}

/-- Reads a reference from a map with a text under `$ref`. -/
def refOfJson? : Json → Option String
  | .object es => (Entries.get? es "$ref").bind Json.string?
  | _ => none

/-- Reads a reference, or else the thing itself. -/
def ofJson (choice : String) (read : Json → Except ShapeError α) (v : Json) :
    Except ShapeError (RefOr α) :=
  match refOfJson? v with
  | some path => .ok (.ref path)
  | none => match read v with
    | .ok a => .ok (.inline a)
    | .error _ => .error (.noAlternative choice)

/-- Writes a reference or the thing itself. -/
def toJson (write : α → Json) : RefOr α → Json
  | ref path => .object [("$ref", .string path)]
  | inline a => write a

end RefOr

/-! ## Bodies -/

namespace MediaType

/-- The fields of a media type. -/
def shape : RecordShape MediaType where
  name := "MediaType"
  blank := {}
  fields :=
    [ .option "schema" SchemaOrRef.ofJson fun v m => { m with schema := v },
      .option "example" Shape.any fun v m => { m with exampleValue := v },
      .default "examples" (Shape.entries Shape.any) fun v m => { m with examples := v } ]

/-- Writes a media type. -/
def toJson (m : MediaType) : Json := .object <|
  Json.optionEntry "schema" m.schema SchemaOrRef.toJson
    ++ Json.optionEntry "example" m.exampleValue id
    ++ Json.mapEntry "examples" m.examples id

end MediaType

/-- Reads the bodies by media type. -/
def Content.ofJson : Json → Except ShapeError Content := Shape.entries MediaType.shape.read

/-- Writes the bodies by media type. -/
def Content.toJson (c : Content) : Json := .object (c.mapValues MediaType.toJson)

/-! ## Parameters -/

namespace Place

/-- Reads a place by its name. -/
def ofJson (v : Json) : Except ShapeError Place :=
  match (Shape.constant? v).bind ofName? with
  | some p => .ok p
  | none => .error (.noAlternative "ParameterLocation")

end Place

namespace ParameterSpec

/-- The fields of a parameter. -/
def shape : RecordShape ParameterSpec where
  name := "Parameter"
  blank := { name := "", place := .query }
  fields :=
    [ .require "name" Shape.string fun v p => { p with name := v },
      .require "in" Place.ofJson fun v p => { p with place := v },
      .option "description" Shape.string fun v p => { p with description := v },
      .default "required" Shape.bool fun v p => { p with required := v },
      .option "deprecated" Shape.bool fun v p => { p with deprecated := v },
      .option "schema" SchemaOrRef.ofJson fun v p => { p with schema := v },
      .option "style" Shape.string fun v p => { p with style := v },
      .option "explode" Shape.bool fun v p => { p with explode := v },
      .option "example" Shape.any fun v p => { p with exampleValue := v } ]
  keep? := some fun key v p => { p with extra := p.extra ++ [(key, v)] }

/-- Writes a parameter. -/
def toJson (p : ParameterSpec) : Json := .object <|
  [("name", .string p.name), ("in", .string p.place.name)]
    ++ Json.optionEntry "description" p.description .string
    ++ [("required", .bool p.required)]
    ++ Json.optionEntry "deprecated" p.deprecated .bool
    ++ Json.optionEntry "schema" p.schema SchemaOrRef.toJson
    ++ Json.optionEntry "style" p.style .string
    ++ Json.optionEntry "explode" p.explode .bool
    ++ Json.optionEntry "example" p.exampleValue id
    ++ p.extra

/-- Reads a parameter or a reference to one. -/
def ofJson : Json → Except ShapeError (RefOr ParameterSpec) :=
  RefOr.ofJson "ParameterOrRef" shape.read

end ParameterSpec

/-! ## Request bodies and responses -/

namespace RequestBody

/-- The fields of a request body. -/
def shape : RecordShape RequestBody where
  name := "RequestBody"
  blank := {}
  fields :=
    [ .option "description" Shape.string fun v b => { b with description := v },
      .default "content" Content.ofJson fun v b => { b with content := v },
      .default "required" Shape.bool fun v b => { b with required := v } ]
  keep? := some fun key v b => { b with extra := b.extra ++ [(key, v)] }

/-- Writes a request body. -/
def toJson (b : RequestBody) : Json := .object <|
  Json.optionEntry "description" b.description .string
    ++ [("content", b.content.toJson), ("required", .bool b.required)]
    ++ b.extra

/-- Reads a request body or a reference to one. -/
def ofJson : Json → Except ShapeError (RefOr RequestBody) :=
  RefOr.ofJson "RequestBodyOrRef" shape.read

end RequestBody

namespace ResponseSpec

/-- The fields of a response. -/
def shape : RecordShape ResponseSpec where
  name := "Response"
  blank := {}
  fields :=
    [ .default "description" Shape.string fun v r => { r with description := v },
      .default "content" Content.ofJson fun v r => { r with content := v } ]
  keep? := some fun key v r => { r with extra := r.extra ++ [(key, v)] }

/-- Writes a response. -/
def toJson (r : ResponseSpec) : Json := .object <|
  [("description", .string r.description)]
    ++ Json.mapEntry "content" r.content MediaType.toJson
    ++ r.extra

/-- Reads a response or a reference to one. -/
def ofJson : Json → Except ShapeError (RefOr ResponseSpec) :=
  RefOr.ofJson "ResponseOrRef" shape.read

end ResponseSpec

/-! ## Operations and paths -/

namespace OperationSpec

/-- The fields of an operation. -/
def shape : RecordShape OperationSpec where
  name := "Operation"
  blank := {}
  fields :=
    [ .option "operationId" Shape.string fun v o => { o with operationId := v },
      .option "summary" Shape.string fun v o => { o with summary := v },
      .option "description" Shape.string fun v o => { o with description := v },
      .default "tags" (Shape.list Shape.string) fun v o => { o with tags := v },
      .default "parameters" (Shape.list ParameterSpec.ofJson) fun v o => { o with parameters := v },
      .option "requestBody" RequestBody.ofJson fun v o => { o with requestBody := v },
      .default "responses" (Shape.entries ResponseSpec.ofJson) fun v o => { o with responses := v },
      .option "deprecated" Shape.bool fun v o => { o with deprecated := v } ]
  keep? := some fun key v o => { o with extra := o.extra ++ [(key, v)] }

/-- Writes an operation. -/
def toJson (o : OperationSpec) : Json := .object <|
  Json.optionEntry "operationId" o.operationId .string
    ++ Json.optionEntry "summary" o.summary .string
    ++ Json.optionEntry "description" o.description .string
    ++ Json.listEntry "tags" o.tags .string
    ++ Json.listEntry "parameters" o.parameters (RefOr.toJson ParameterSpec.toJson)
    ++ Json.optionEntry "requestBody" o.requestBody (RefOr.toJson RequestBody.toJson)
    ++ Json.mapEntry "responses" o.responses (RefOr.toJson ResponseSpec.toJson)
    ++ Json.optionEntry "deprecated" o.deprecated .bool
    ++ o.extra

end OperationSpec

namespace PathItem

/-- The fields of a path item. -/
def shape : RecordShape PathItem where
  name := "PathItem"
  blank := {}
  fields :=
    [ .option "summary" Shape.string fun v i => { i with summary := v },
      .option "description" Shape.string fun v i => { i with description := v },
      .default "parameters" (Shape.list ParameterSpec.ofJson) fun v i => { i with parameters := v },
      .option "get" OperationSpec.shape.read fun v i => { i with get := v },
      .option "post" OperationSpec.shape.read fun v i => { i with post := v },
      .option "put" OperationSpec.shape.read fun v i => { i with put := v },
      .option "delete" OperationSpec.shape.read fun v i => { i with delete := v },
      .option "patch" OperationSpec.shape.read fun v i => { i with patch := v },
      .option "options" OperationSpec.shape.read fun v i => { i with options := v },
      .option "head" OperationSpec.shape.read fun v i => { i with head := v },
      .option "trace" OperationSpec.shape.read fun v i => { i with trace := v } ]

/-- Writes a path item. -/
def toJson (i : PathItem) : Json := .object <|
  Json.optionEntry "summary" i.summary .string
    ++ Json.optionEntry "description" i.description .string
    ++ Json.listEntry "parameters" i.parameters (RefOr.toJson ParameterSpec.toJson)
    ++ Json.optionEntry "get" i.get OperationSpec.toJson
    ++ Json.optionEntry "post" i.post OperationSpec.toJson
    ++ Json.optionEntry "put" i.put OperationSpec.toJson
    ++ Json.optionEntry "delete" i.delete OperationSpec.toJson
    ++ Json.optionEntry "patch" i.patch OperationSpec.toJson
    ++ Json.optionEntry "options" i.options OperationSpec.toJson
    ++ Json.optionEntry "head" i.head OperationSpec.toJson
    ++ Json.optionEntry "trace" i.trace OperationSpec.toJson

end PathItem

/-! ## The document -/

namespace Components

/-- The fields of the components. -/
def shape : RecordShape Components where
  name := "Components"
  blank := {}
  fields :=
    [ .default "schemas" (Shape.entries SchemaOrRef.ofJson) fun v c => { c with schemas := v },
      .default "responses" (Shape.entries ResponseSpec.ofJson) fun v c => { c with responses := v },
      .default "parameters" (Shape.entries ParameterSpec.ofJson) fun v c =>
        { c with parameters := v },
      .default "requestBodies" (Shape.entries RequestBody.ofJson) fun v c =>
        { c with requestBodies := v } ]

/-- Writes the components. -/
def toJson (c : Components) : Json := .object <|
  Json.mapEntry "schemas" c.schemas SchemaOrRef.toJson
    ++ Json.mapEntry "responses" c.responses (RefOr.toJson ResponseSpec.toJson)
    ++ Json.mapEntry "parameters" c.parameters (RefOr.toJson ParameterSpec.toJson)
    ++ Json.mapEntry "requestBodies" c.requestBodies (RefOr.toJson RequestBody.toJson)

end Components

namespace Info

/-- The fields of the info part. -/
def shape : RecordShape Info where
  name := "Info"
  blank := { title := "", version := "" }
  fields :=
    [ .require "title" Shape.string fun v i => { i with title := v },
      .option "description" Shape.string fun v i => { i with description := v },
      .require "version" Shape.string fun v i => { i with version := v } ]

/-- Writes the info part. -/
def toJson (i : Info) : Json := .object <|
  [("title", .string i.title)]
    ++ Json.optionEntry "description" i.description .string
    ++ [("version", .string i.version)]

end Info

namespace Tag

/-- The fields of a tag. -/
def shape : RecordShape Tag where
  name := "Tag"
  blank := { name := "" }
  fields :=
    [ .require "name" Shape.string fun v t => { t with name := v },
      .option "description" Shape.string fun v t => { t with description := v } ]

/-- Writes a tag. -/
def toJson (t : Tag) : Json := .object <|
  ("name", .string t.name) :: Json.optionEntry "description" t.description .string

end Tag

namespace Document

/-- The fields of a document. -/
def shape : RecordShape Document where
  name := "OpenApiSpec"
  blank := { openapi := "", info := { title := "", version := "" } }
  fields :=
    [ .require "openapi" Shape.string fun v d => { d with openapi := v },
      .require "info" Info.shape.read fun v d => { d with info := v },
      .default "paths" (Shape.entries PathItem.shape.read) fun v d => { d with paths := v },
      .option "components" Components.shape.read fun v d => { d with components := v },
      .default "tags" (Shape.list Tag.shape.read) fun v d => { d with tags := v } ]
  keep? := some fun key v d => { d with extra := d.extra ++ [(key, v)] }

/-- Reads a document. -/
def ofJson : Json → Except ShapeError Document := shape.read

/-- Writes a document. -/
def toJson (d : Document) : Json := .object <|
  [("openapi", .string d.openapi), ("info", d.info.toJson)]
    ++ Json.mapEntry "paths" d.paths PathItem.toJson
    ++ Json.optionEntry "components" d.components Components.toJson
    ++ Json.listEntry "tags" d.tags Tag.toJson
    ++ d.extra

end Document

end OpenApi
