import OpenApi.Json.Printer
import OpenApi.Text.Quoted
import OpenApi.Yaml.Error

set_option autoImplicit false

/-! # What can be wrong with a document

Each error is a cause with what it is about; its wording is given by `message`. An error of a later
stage contains the error of the stage it arose in. -/

namespace OpenApi

/-- Why a JSON value is not of the expected shape. -/
inductive ShapeError where
  /-- A value of another kind stands where `expected` should. -/
  | wrongKind (found : Json) (expected : String)
  /-- A map lacks a field. -/
  | missingField (name : String)
  /-- No alternative of a choice fits. -/
  | noAlternative (choice : String)
  /-- A sequence in place of a map ends before the item of a field that has no default, which is the one at
      `index` of `fields` fields. -/
  | tooShort (index : Nat) (record : String) (fields : Nat)
  /-- A sequence in place of a map has more items than there are fields. -/
  | tooLong (length : Nat)
  deriving DecidableEq, Repr

/-- How a value is called in a message about its kind. -/
def Json.describe : Json → String
  | .null => "null"
  | .bool b => "boolean `" ++ toString b ++ "`"
  | .number (.int n) => "integer `" ++ toString n ++ "`"
  | .number (.double x) => "floating point `" ++ x.toText Json.doubleLayout ++ "`"
  | .string s => "string " ++ Text.quoted s
  | .array _ => "sequence"
  | .object _ => "map"

/-- The wording of a shape error. -/
def ShapeError.message : ShapeError → String
  | .wrongKind found expected => "invalid type: " ++ found.describe ++ ", expected " ++ expected
  | .missingField name => "missing field `" ++ name ++ "`"
  | .noAlternative choice => "data did not match any variant of untagged enum " ++ choice
  | .tooShort index record fields =>
      "invalid length " ++ toString index ++ ", expected struct " ++ record ++ " with "
        ++ toString fields ++ " elements"
  | .tooLong length =>
      "invalid length " ++ toString length ++ ", expected fewer elements in array"

/-- Why a text is not a document. -/
inductive ParseError where
  /-- The text is not YAML, or YAML that has no JSON form. -/
  | yaml (cause : Yaml.Error)
  /-- The text is not JSON. -/
  | json
  /-- The value does not have the shape of a document. -/
  | shape (cause : ShapeError)
  | unsupportedVersion (version : String)
  | missingField (name : String)
  deriving DecidableEq, Repr

/-- The wording of a parse error; that of malformed JSON is not specified further. -/
def ParseError.message : ParseError → String
  | .yaml cause => "failed to parse YAML: " ++ cause.message
  | .json => "failed to parse JSON"
  | .shape cause => "failed to parse JSON: " ++ cause.message
  | .unsupportedVersion version => "unsupported OpenAPI version: " ++ version
  | .missingField name => "missing required field: " ++ name

/-- Why a reference cannot be followed. -/
inductive ResolveError where
  /-- The chain of references comes back to `path`. -/
  | circular (path : String)
  /-- The path is not of the form `#/components/<section>/<name>`. -/
  | malformed (path : String)
  /-- The path leads into another section than the expected one, or its name is not a name. -/
  | wrongSection (expected found path : String)
  /-- No component has the name. -/
  | notFound (path : String)
  deriving DecidableEq, Repr

/-- The wording of a resolve error. -/
def ResolveError.message : ResolveError → String
  | .circular path => "circular reference detected: " ++ path
  | .malformed path => "invalid reference format: " ++ path
  | .wrongSection expected found path =>
      "invalid reference format: expected section '" ++ expected ++ "', got '" ++ found ++ "' in "
        ++ path
  | .notFound path => "reference target not found: " ++ path

/-- Why no code-generation data can be built for a document. -/
inductive BuildError where
  | resolve (cause : ResolveError)
  /-- A composite has several arrays whose elements are no scalars. -/
  | ambiguousComposite (schema : String)
  /-- A response is a choice between scalars. -/
  | ambiguousResponse (operation code : String)
  /-- An `allOf` composes something that is no object. -/
  | invalidAllOf (schema constituent : String)
  | duplicateOperation (name : String)
  | duplicateTaggedOperation (tag operationId : String)
  | duplicateDeduplicatedOperation (name : String)
  | invalidResponseCode (operation code : String)
  deriving DecidableEq, Repr

/-- The wording of a build error. -/
def BuildError.message : BuildError → String
  | .resolve cause => "resolve error: " ++ cause.message
  | .ambiguousComposite schema =>
      "schema " ++ schema ++ " defines a composite schema with multiple array types which cannot be "
        ++ "distinguished at runtime"
  | .ambiguousResponse operation code =>
      "operation " ++ operation ++ " response " ++ code ++ " is a composite of primitive types which "
        ++ "cannot be distinguished at runtime"
  | .invalidAllOf schema constituent =>
      "schema " ++ schema ++ " uses allOf to compose non-object schema " ++ constituent
  | .duplicateOperation name =>
      "operation name " ++ name ++ " is used by more than one operation"
  | .duplicateTaggedOperation tag operationId =>
      "operationId " ++ operationId ++ " is used by more than one operation tagged " ++ tag
  | .duplicateDeduplicatedOperation name =>
      "deduplicated operation id " ++ name ++ " is assigned to more than one operation"
  | .invalidResponseCode operation code =>
      "operation " ++ operation ++ " declares invalid response code " ++ code

end OpenApi
