import OpenApi.CodeGen.Basic
import OpenApi.Model.Written

set_option autoImplicit false

/-! # Data for code generators as JSON -/

namespace OpenApi

/-- A value, or null in its absence. -/
def Json.orNull {α : Type} (f : α → Json) : Option α → Json
  | some a => f a
  | none => .null

/-- A name in all its case forms. -/
def CasedName.toJson (n : CasedName) : Json :=
  .object
    [("original", .string n.text), ("pascalCase", .string n.pascal), ("camelCase", .string n.camel),
     ("snakeCase", .string n.snake), ("screamingSnake", .string n.screaming),
     ("kebabCase", .string n.kebab)]

/-- A response code. -/
def ResponseCode.toJson (c : ResponseCode) : Json := .string c.text

/-- A parameter. -/
def Parameter.toJson (p : Parameter) : Json := .object <|
  [("model", Json.ofNat p.model), ("in", .string p.location.name), ("name", .string p.name),
   ("prop", .string p.prop)]
    ++ Json.optionEntry "mediaType" p.mediaType .string
    ++ Json.optionEntry "collectionFormat" p.collectionFormat (fun f => .string f.name)
    ++ [("isRequired", .bool p.isRequired), ("inlined", .bool p.inlined)]
    ++ Json.optionEntry "description" p.description .string
    ++ Json.mapEntry "vendorExtensions" p.vendorExtensions id

/-- A response. -/
def Response.toJson (r : Response) : Json := .object <|
  [("model", Json.orNull Json.ofNat r.model), ("code", r.code.toJson),
   ("mediaTypes", Json.ofStrings r.mediaTypes), ("description", .string r.description)]
    ++ Json.mapEntry "vendorExtensions" r.vendorExtensions id

/-- An operation. -/
def Operation.toJson (op : Operation) : Json := .object <|
  [("path", .string op.path), ("method", .string op.method.name),
   ("operationId", .string op.operationId), ("name", op.name.toJson),
   ("uniqueName", .string op.uniqueName), ("tagIdentities", Json.ofStrings op.tagIdentities),
   ("tags", Json.ofStrings op.tags), ("parameters", .array (op.parameters.map Parameter.toJson)),
   ("responses", .array (op.responses.map Response.toJson)),
   ("result", Json.orNull ResponseCode.toJson op.result)]
    ++ Json.optionEntry "summary" op.summary .string
    ++ Json.optionEntry "description" op.description .string
    ++ [("deprecated", .bool op.deprecated)]
    ++ Json.mapEntry "vendorExtensions" op.vendorExtensions id
    ++ [("identifiers", op.identifiers.toJson .string)]

/-- A service. -/
def Service.toJson (s : Service) : Json :=
  .object
    [("name", s.name.toJson), ("tag", Json.orNull .string s.tag),
     ("operations", Json.ofNats s.operations)]

/-- The kind of a place. -/
def ExtensionSite.kind : ExtensionSite → String
  | .document => "document"
  | .model _ => "model"
  | .operation _ => "operation"
  | .parameter .. => "parameter"
  | .response .. => "response"

/-- Where in its kind a place is. -/
def ExtensionSite.position? : ExtensionSite → Option Json
  | .document => none
  | .model id => some (Json.ofNat id)
  | .operation i => some (Json.ofNat i)
  | .parameter i j | .response i j =>
      some (.object [("operation", Json.ofNat i), ("index", Json.ofNat j)])

/-- A place. -/
def ExtensionSite.toJson (s : ExtensionSite) : Json :=
  .object (("kind", .string s.kind) :: Json.optionEntry "id" s.position? id)

/-- What a document says about itself. -/
def Info.summaryJson (i : Info) : Json :=
  .object ([("title", .string i.title), ("version", .string i.version)]
    ++ Json.optionEntry "description" i.description .string)

/-- The data of a document. -/
def CodeGenData.toJson (d : CodeGenData) : Json :=
  .object
    [("info", d.info.summaryJson), ("modelArena", d.nodes.toJson),
     ("models", Json.ofNats d.models.toList), ("services", .array (d.services.map Service.toJson)),
     ("allOperations", .array (d.operations.map Operation.toJson)),
     ("operationsByTag", .object (Entries.mapValues Json.ofNats d.operationsByTag)),
     ("untaggedOperations", Json.ofNats d.untaggedOperations),
     ("vendorExtensions", .object d.vendorExtensions),
     ("vendorExtensionSites", .object
       (Entries.mapValues (fun sites => .array (sites.map ExtensionSite.toJson))
         d.extensionSites))]

namespace CodeGenData

/-- A named model in short. -/
def modelSummary (d : CodeGenData) (id : ModelId) : Option Json :=
  d.nodes[id]?.map fun m => .object
    [("name", .string m.name), ("export", .string m.kind.name),
     ("mapped", m.mapped.toJson MappedType.toJson)]

/-- An operation in short. -/
def operationSummary (op : Operation) : Json :=
  .object
    [("uniqueName", .string op.uniqueName), ("method", .string op.method.name),
     ("path", .string op.path), ("result", Json.orNull ResponseCode.toJson op.result),
     ("tags", Json.ofStrings op.tags)]

/-- The data of a document in short. -/
def summary (d : CodeGenData) : Json :=
  .object
    [("info", .object [("title", .string d.info.title), ("version", .string d.info.version)]),
     ("models", .array (d.models.toList.filterMap d.modelSummary)),
     ("operations", .array (d.operations.map operationSummary)),
     ("services", Json.ofStrings (d.services.map (·.name.text)))]

end CodeGenData

end OpenApi
