import OpenApi.Json.Basic

set_option autoImplicit false

/-! # Collapsing null in one schema

Two rules turn a schema that treats null as a type into one with `nullable: true`. `collapseTypes`
takes a list under `type` apart: null is recorded as `nullable`, and several other types become
branches of an `anyOf`. `collapseNullBranches` drops branches of a union that admit null only; a
single branch that is left is hoisted into the schema.

`collapse` applies both, in their order. -/

namespace OpenApi

namespace Dialect

/-! ## Lists under `type` -/

/-- Whether a value is the given text. -/
def isText (s : String) : Json → Bool
  | .string t => t = s
  | _ => false

/-- The keywords that say something about one type only. -/
def ownKeywords (t : Json) : List String :=
  if isText "array" t then ["items", "minItems", "maxItems", "uniqueItems"]
  else if isText "object" t then ["properties", "required", "additionalProperties"]
  else []

/-- Takes the entries under the given keys out of a map. -/
def takeKeys : List String → Entries Json → Entries Json × Entries Json
  | [], es => ([], es)
  | key :: keys, es => match es.get? key with
    | some v =>
        let (taken, rest) := takeKeys keys (es.erase key)
        ((key, v) :: taken, rest)
    | none => takeKeys keys es

/-- One branch per type; a branch takes the keywords of its type along. Answers the branches and
    what is left of the schema. -/
def splitBranches : List Json → Entries Json → List Json × Entries Json
  | [], es => ([], es)
  | t :: ts, es =>
      let (own, es) := takeKeys (ownKeywords t) es
      let (branches, es) := splitBranches ts es
      (.object (("type", t) :: own) :: branches, es)

/-- The items of an array, none for any other value. -/
def itemsOf : Option Json → List Json
  | some (.array xs) => xs
  | _ => []

/-- Requires one of the branches. A schema that declares an `anyOf` already keeps it and requires the
    branches beside it. -/
def addBranches (branches : List Json) (es : Entries Json) : Entries Json :=
  if es.has "anyOf" then
    es.erase "allOf" ++
      [("allOf", .array (itemsOf (es.get? "allOf") ++ [.object [("anyOf", .array branches)]]))]
  else es ++ [("anyOf", .array branches)]

/-- The schema with the given types other than null in place of the list under `type`. -/
def setTypes (types : List Json) (es : Entries Json) : Entries Json :=
  match types with
  | [] => es.put "type" (.string "null")
  | [t] => es.put "type" t
  | ts =>
      let (branches, es) := splitBranches ts (es.erase "type")
      addBranches branches es

/-- The schema with `nullable: true`. -/
def setNullable (es : Entries Json) : Entries Json := es.put "nullable" (.bool true)

/-- Takes a list under `type` apart. -/
def collapseTypes (es : Entries Json) : Entries Json :=
  match es.get? "type" with
  | some (.array types) =>
      let typed := setTypes (types.filter (!isText "null" ·)) es
      if types.any (isText "null") then setNullable typed else typed
  | _ => es

/-! ## Null branches of a union -/

/-- The keywords that a schema for null alone may have. -/
def nullKeywords : List String := ["type", "description", "title"]

/-- Whether a schema admits null only and says nothing else. -/
def isNullSchema : Json → Bool
  | .object es =>
      (match Entries.get? es "type" with
        | some t => isText "null" t
        | none => false)
      && es.all fun e => nullKeywords.contains e.1
  | _ => false

/-- Adds the keywords of a branch that the schema does not have itself. -/
def hoist : Json → Entries Json → Entries Json
  | .object inner, es => inner.foldl (fun es e => Entries.putNew e.1 e.2 es) es
  | _, es => es

/-- The schema with the given branches in place of the union under `key`. -/
def setBranches (key : String) (branches : List Json) (es : Entries Json) : Entries Json :=
  match branches with
  | [] => (es.erase key).put "type" (.string "null")
  | [b] => hoist b (es.erase key)
  | bs => es.put key (.array bs)

/-- Drops the null branches of the union under `key` and records them as `nullable: true`. -/
def collapseNullBranches (key : String) (es : Entries Json) : Entries Json :=
  match es.get? key with
  | some (.array branches) =>
      if branches.any isNullSchema then
        setBranches key (branches.filter (!isNullSchema ·)) (setNullable es)
      else es
  | _ => es

/-- Both rules, in their order. -/
def collapse (es : Entries Json) : Entries Json :=
  collapseNullBranches "oneOf" (collapseNullBranches "anyOf" (collapseTypes es))

end Dialect

end OpenApi
