import OpenApi.Json.Shape
import OpenApi.Model.Registry

set_option autoImplicit false

/-! # Models as JSON -/

namespace OpenApi

/-- A value for each language, under the names of the languages. -/
def PerLanguage.toJson {α : Type} (m : PerLanguage α) (f : α → Json) : Json :=
  .object (m.toList.map fun e => (e.1.name, f e.2))

/-- A list of positions. -/
def Json.ofNats (ns : List Nat) : Json := .array (ns.map Json.ofNat)

/-- How a node is called in a language. -/
def MappedType.toJson (t : MappedType) : Json :=
  .object [("type", .string t.type), ("identifier", .string t.identifier)]

/-- A discriminator. -/
def ModelDiscriminator.toJson (d : ModelDiscriminator) : Json :=
  .object
    [("propertyName", .string d.propertyName),
     ("mapping", .object (Entries.mapValues Json.string d.mapping))]

/-- A node. -/
def Model.toJson (m : Model) : Json := .object <|
  [("name", .string m.name), ("export", .string m.kind.name), ("type", .string m.baseType)]
    ++ Json.optionEntry "format" m.format .string
    ++ Json.optionEntry "description" m.description .string
    ++ [("properties", Json.ofNats m.properties)]
    ++ Json.optionEntry "link" m.link Json.ofNat
    ++ Json.listEntry "enum" m.enumValues id
    ++ [("isNullable", .bool m.isNullable), ("isRequired", .bool m.isRequired),
        ("isReadOnly", .bool m.isReadOnly), ("deprecated", .bool m.deprecated)]
    ++ Json.listEntry "composedModels" m.composedModels Json.ofNat
    ++ Json.listEntry "composedPrimitives" m.composedPrimitives Json.ofNat
    ++ Json.optionEntry "discriminator" m.discriminator ModelDiscriminator.toJson
    ++ [("mapped", m.mapped.toJson MappedType.toJson)]
    ++ Json.mapEntry "vendorExtensions" m.vendorExtensions id

/-- All nodes in order. -/
def Nodes.toJson (nodes : Nodes) : Json := .array (nodes.toList.map Model.toJson)

end OpenApi
