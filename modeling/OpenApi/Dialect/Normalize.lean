import OpenApi.Dialect.Basic
import OpenApi.Dialect.Weight

set_option autoImplicit false

/-! # Normal documents

`Dialect.normalize` brings a document into the dialect of OpenAPI 3.0. In a document of a later
version it goes down through everything that may be a schema and collapses null at each map it meets.
Literal data is left alone, and the keys of maps from names are names, no keywords. -/

namespace OpenApi

namespace Dialect

/-- Whether the value under a key is literal data or a vendor extension. -/
def isLiteralKey (key : String) : Bool :=
  key.startsWith "x-" || ["example", "examples", "enum", "default", "const"].contains key

/-- Whether the value under a key is a map from names. -/
def isNameMap (key : String) : Bool :=
  ["properties", "patternProperties", "schemas", "$defs", "definitions", "paths", "responses",
    "content", "parameters", "requestBodies", "headers", "callbacks", "encoding"].contains key

mutual

/-- Normalizes a value and everything below it. -/
def normalizeNode : Json → Json
  | .object es => .object (normalizeEntries (collapse es))
  | .array xs => .array (normalizeItems xs)
  | v => v
termination_by v => weight v
decreasing_by
  · have := entriesWeight_collapse_le es
    simp only [weight]
    omega
  · simp only [weight]
    omega

/-- Normalizes the members of a map by their keys. -/
def normalizeEntries : List (String × Json) → List (String × Json)
  | [] => []
  | (key, v) :: rest =>
      -- a literal may look like a schema, so it is not looked into
      if isLiteralKey key then (key, v) :: normalizeEntries rest
      else if isNameMap key then
        match v with
        | .object named => (key, .object (normalizeNamed named)) :: normalizeEntries rest
        | v => (key, normalizeNode v) :: normalizeEntries rest
      else (key, normalizeNode v) :: normalizeEntries rest
termination_by es => entriesWeight es
decreasing_by all_goals
  first
    | have h := weight_le_entry key v
    | have h := weight_le_entry key (.object named)
  simp only [entriesWeight, weight] at h ⊢
  omega

/-- Normalizes the members of a map from names. -/
def normalizeNamed : List (String × Json) → List (String × Json)
  | [] => []
  | (name, v) :: rest => (name, normalizeNode v) :: normalizeNamed rest
termination_by es => entriesWeight es
decreasing_by all_goals
  have h := weight_le_entry name v
  simp only [entriesWeight]
  omega

/-- Normalizes the items of an array. -/
def normalizeItems : List Json → List Json
  | [] => []
  | x :: xs => normalizeNode x :: normalizeItems xs
termination_by xs => itemsWeight xs
decreasing_by all_goals (simp only [itemsWeight]; omega)

end

/-- The document as a dialect asks for. -/
def apply : Dialect → Json → Json
  | .v30, doc => doc
  | .v31, doc => normalizeNode doc

/-- A document in the dialect of OpenAPI 3.0. -/
def normalize (doc : Json) : Except ParseError Json := do
  let dialect ← ofDocument doc
  pure (dialect.apply doc)

end Dialect

end OpenApi
