import OpenApi.Dialect.Normalize
import OpenApi.Document.Shape
import OpenApi.Json.Reader
import OpenApi.Logged
import OpenApi.Yaml.Value

set_option autoImplicit false

/-! # Reading documents

A document is read from a value, from JSON text or from YAML text. The value is first brought into
the dialect of OpenAPI 3.0, and then taken apart by the shapes of the document types. -/

namespace OpenApi

namespace Document

/-- The document of a normal value. -/
def ofNormal (v : Json) : Except ParseError Document := (ofJson v).mapError .shape

/-- The document of a value. -/
def ofValue (raw : Json) : Logged (Except ParseError Document) :=
  match Dialect.ofDocument raw with
  | .error e => .silent (.error e)
  | .ok dialect => ⟨[.normalizing dialect], ofNormal (dialect.apply raw)⟩

/-- The document of a JSON text. -/
def ofJsonText (text : String) : Logged (Except ParseError Document) :=
  match Json.read? text with
  | some raw => ofValue raw
  | none => .silent (.error .json)

/-- The document of a YAML text. -/
def ofYamlText (text : String) : Logged (Except ParseError Document) :=
  match Yaml.value text with
  | .ok raw => ofValue raw
  | .error e => .silent (.error (.yaml e))

end Document

end OpenApi
