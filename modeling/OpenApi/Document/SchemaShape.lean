import OpenApi.Document.Schema
import OpenApi.Json.Shape

set_option autoImplicit false

/-! # Schemas as JSON

`SchemaOrRef.ofJson` reads a schema from a value and `SchemaOrRef.toJson` writes it. A value is a
reference when it has a text under `$ref` and no misfit under `nullable`; any other map is an inline
schema whose known keywords must fit. Keywords are met in the order of the document. -/

namespace OpenApi

/-! ## Parts of a schema -/

namespace TypeSet

/-- A type by its name. -/
def typeOfJson? (v : Json) : Option SchemaType := (Shape.constant? v).bind SchemaType.ofName?

/-- Reads one type or a list of types. -/
def ofJson (v : Json) : Except ShapeError TypeSet :=
  match typeOfJson? v, v with
  | some t, _ => .ok (.single t)
  | none, .array xs => match xs.mapM typeOfJson? with
    | some ts => .ok (.multiple ts)
    | none => .error (.noAlternative "TypeSet")
  | none, _ => .error (.noAlternative "TypeSet")

/-- Writes a type as its name and several as a list. -/
def toJson : TypeSet → Json
  | single t => .string t.name
  | multiple ts => .array (ts.map fun t => .string t.name)

end TypeSet

namespace Discriminator

/-- The fields of a discriminator. -/
def shape : RecordShape Discriminator where
  name := "Discriminator"
  blank := { propertyName := "" }
  fields :=
    [ .require "propertyName" Shape.string fun v d => { d with propertyName := v },
      .default "mapping" (Shape.entries Shape.string) fun v d => { d with mapping := v } ]

/-- Writes a discriminator; an empty mapping is left out. -/
def toJson (d : Discriminator) : Json :=
  .object (("propertyName", .string d.propertyName) :: Json.mapEntry "mapping" d.mapping .string)

end Discriminator

/-! ## Reading -/

/-- Reads a reference from the members of a map. -/
def SchemaOrRef.refOfEntries? (es : Entries Json) : Option SchemaOrRef :=
  match es.get? "$ref", es.get? "nullable" with
  | some (.string path), none => some (.ref path none)
  | some (.string path), some .null => some (.ref path none)
  | some (.string path), some (.bool b) => some (.ref path (some b))
  | _, _ => none

mutual

/-- Reads a schema. -/
def SchemaOrRef.ofJson : Json → Except ShapeError SchemaOrRef
  | .object es => match SchemaOrRef.refOfEntries? es with
    | some ref => .ok ref
    | none => match Schema.takeMembers es {} with
      | .ok s => .ok (.inline s)
      | .error _ => .error (.noAlternative "SchemaOrRef")
  | _ => .error (.noAlternative "SchemaOrRef")

/-- Reads the members of an inline schema one after the other. -/
def Schema.takeMembers : List (String × Json) → Schema → Except ShapeError Schema
  | [], s => .ok s
  | (key, v) :: rest, s => do
      let s ← match key with
        | "type" => do pure { s with type := ← Shape.optional TypeSet.ofJson v }
        | "format" => do pure { s with format := ← Shape.optional Shape.string v }
        | "title" => do pure { s with title := ← Shape.optional Shape.string v }
        | "description" => do pure { s with description := ← Shape.optional Shape.string v }
        | "default" => do pure { s with default := ← Shape.optional Shape.any v }
        | "nullable" => do pure { s with nullable := ← Shape.optional Shape.bool v }
        | "properties" => match v with
          | .object es => do pure { s with properties := ← SchemaOrRef.entriesOfJson es }
          | _ => .error (.wrongKind v "a map")
        | "required" => do pure { s with required := ← Shape.list Shape.string v }
        | "additionalProperties" => match v with
          | .null => .ok { s with additional := none }
          | .bool b => .ok { s with additional := some (.allowed b) }
          | _ => match SchemaOrRef.ofJson v with
            | .ok a => .ok { s with additional := some (.schema a) }
            | .error _ => .error (.noAlternative "AdditionalProperties")
        | "items" => match v with
          | .null => .ok { s with items := none }
          | _ => do pure { s with items := some (← SchemaOrRef.ofJson v) }
        | "allOf" => match v with
          | .array xs => do pure { s with allOf := ← SchemaOrRef.listOfJson xs }
          | _ => .error (.wrongKind v "a sequence")
        | "oneOf" => match v with
          | .array xs => do pure { s with oneOf := ← SchemaOrRef.listOfJson xs }
          | _ => .error (.wrongKind v "a sequence")
        | "anyOf" => match v with
          | .array xs => do pure { s with anyOf := ← SchemaOrRef.listOfJson xs }
          | _ => .error (.wrongKind v "a sequence")
        | "discriminator" => do
            pure { s with discriminator := ← Shape.optional Discriminator.shape.read v }
        | "enum" => do pure { s with enum := ← Shape.list Shape.any v }
        | "readOnly" => do pure { s with readOnly := ← Shape.optional Shape.bool v }
        | "writeOnly" => do pure { s with writeOnly := ← Shape.optional Shape.bool v }
        | "deprecated" => do pure { s with deprecated := ← Shape.optional Shape.bool v }
        | "const" => do pure { s with const := ← Shape.optional Shape.any v }
        | "example" => do pure { s with exampleValue := ← Shape.optional Shape.any v }
        | _ => .ok { s with extra := s.extra ++ [(key, v)] }
      Schema.takeMembers rest s

/-- Reads the schemas of a map. -/
def SchemaOrRef.entriesOfJson :
    List (String × Json) → Except ShapeError (List (String × SchemaOrRef))
  | [] => .ok []
  | (key, v) :: rest => do
      let s ← SchemaOrRef.ofJson v
      let ss ← SchemaOrRef.entriesOfJson rest
      pure ((key, s) :: ss)

/-- Reads the schemas of a list. -/
def SchemaOrRef.listOfJson : List Json → Except ShapeError (List SchemaOrRef)
  | [] => .ok []
  | v :: rest => do
      let s ← SchemaOrRef.ofJson v
      let ss ← SchemaOrRef.listOfJson rest
      pure (s :: ss)

end

/-- Reads an inline schema. -/
def Schema.ofJson : Json → Except ShapeError Schema
  | .object es => Schema.takeMembers es {}
  | v => .error (.wrongKind v "struct Schema")

/-! ## Writing -/

mutual

/-- Writes a schema. -/
def SchemaOrRef.toJson : SchemaOrRef → Json
  | .ref path nullable => .object (("$ref", .string path) :: Json.optionEntry "nullable" nullable .bool)
  | .inline s => .object <|
      Json.optionEntry "type" s.type TypeSet.toJson
        ++ Json.optionEntry "format" s.format .string
        ++ Json.optionEntry "title" s.title .string
        ++ Json.optionEntry "description" s.description .string
        ++ Json.optionEntry "default" s.default id
        ++ Json.optionEntry "nullable" s.nullable .bool
        ++ SchemaOrRef.memberOfEntries "properties" s.properties
        ++ Json.listEntry "required" s.required .string
        ++ SchemaOrRef.memberOfAdditional s.additional
        ++ SchemaOrRef.memberOfOption "items" s.items
        ++ SchemaOrRef.memberOfList "allOf" s.allOf
        ++ SchemaOrRef.memberOfList "oneOf" s.oneOf
        ++ SchemaOrRef.memberOfList "anyOf" s.anyOf
        ++ Json.optionEntry "discriminator" s.discriminator Discriminator.toJson
        ++ Json.listEntry "enum" s.enum id
        ++ Json.optionEntry "readOnly" s.readOnly .bool
        ++ Json.optionEntry "writeOnly" s.writeOnly .bool
        ++ Json.optionEntry "deprecated" s.deprecated .bool
        ++ Json.optionEntry "const" s.const id
        ++ Json.optionEntry "example" s.exampleValue id
        ++ s.extra

/-- The member of an optional schema. -/
def SchemaOrRef.memberOfOption (key : String) : Option SchemaOrRef → List (String × Json)
  | none => []
  | some s => [(key, s.toJson)]

/-- The member `additionalProperties`. -/
def SchemaOrRef.memberOfAdditional : Option (Additional SchemaOrRef) → List (String × Json)
  | none => []
  | some (.allowed b) => [("additionalProperties", .bool b)]
  | some (.schema s) => [("additionalProperties", s.toJson)]

/-- The member of a list of schemas. -/
def SchemaOrRef.memberOfList (key : String) : List SchemaOrRef → List (String × Json)
  | [] => []
  | s :: ss => [(key, .array (s.toJson :: SchemaOrRef.listToJson ss))]

/-- The member of a map of schemas. -/
def SchemaOrRef.memberOfEntries (key : String) :
    List (String × SchemaOrRef) → List (String × Json)
  | [] => []
  | (k, s) :: ss => [(key, .object ((k, s.toJson) :: SchemaOrRef.entriesToJson ss))]

/-- Writes the schemas of a list. -/
def SchemaOrRef.listToJson : List SchemaOrRef → List Json
  | [] => []
  | s :: ss => s.toJson :: SchemaOrRef.listToJson ss

/-- Writes the schemas of a map. -/
def SchemaOrRef.entriesToJson : List (String × SchemaOrRef) → List (String × Json)
  | [] => []
  | (k, s) :: ss => (k, s.toJson) :: SchemaOrRef.entriesToJson ss

end

/-- Writes an inline schema. -/
def Schema.toJson (s : Schema) : Json := (SchemaOrRef.inline s).toJson

end OpenApi
