import OpenApi.Json.Printer
import OpenApi.Model.Registry
import OpenApi.Naming.Identifier

set_option autoImplicit false

/-! # Type expressions

A `TypeExpr` says what type a node has, in words of no language; `TypeExpr.render` writes it in one.
`Registry.typeExpr` reads the type off the graph: the node itself is taken apart, while the named
models that it reaches appear by their names, which keeps recursive schemas finite. -/

namespace OpenApi

/-- A type. -/
inductive TypeExpr where
  /-- A named model. -/
  | named (name : String)
  | primitive (base : String) (format : Option String)
  /-- One of some literal values. -/
  | literals (values : List Json)
  | array (element : TypeExpr)
  | dictionary (value : TypeExpr)
  | nullable (t : TypeExpr)
  deriving Repr, Inhabited

namespace TypeExpr

/-! ## Writing types -/

/-- The name of a primitive type in a language; the format tells dates from other strings. -/
def primitiveName (lang : Language) (base : String) (format : Option String) : String :=
  match lang with
  | .typescript => match base, format with
    | "string", some "date" => "Date"
    | "string", some "date-time" => "Date"
    | "string", _ => "string"
    | "number", _ => "number"
    | "integer", _ => "number"
    | "boolean", _ => "boolean"
    | "null", _ => "null"
    | "binary", _ => "Blob"
    | _, _ => "unknown"
  | .python => match base, format with
    | "string", some "date" => "date"
    | "string", some "date-time" => "datetime"
    | "string", _ => "str"
    | "number", _ => "float"
    | "integer", _ => "int"
    | "boolean", _ => "bool"
    | "null", _ => "None"
    | "binary", _ => "bytearray"
    | _, _ => "Any"

/-- A character of a literal: quotes and backslashes are escaped. -/
def escapeLiteralChar (c : Char) : List Char :=
  if c = '\\' then ['\\', '\\'] else if c = '\'' then ['\\', '\''] else [c]

/-- A string as a literal in single quotes. -/
def quoteLiteral (s : String) : String :=
  "'" ++ String.ofList (s.toList.flatMap escapeLiteralChar) ++ "'"

/-- A value as a literal of a language. -/
def literal (lang : Language) (v : Json) : String :=
  match v, lang with
  | .string s, _ => quoteLiteral s
  | .bool true, .python => "True"
  | .bool false, .python => "False"
  | .null, .python => "None"
  | v, _ => v.compact

/-- The type of one of some values. -/
def renderLiterals (lang : Language) (values : List Json) : String :=
  let literals := values.map (literal lang)
  match lang with
  | .typescript => " | ".intercalate literals
  | .python => "Literal[" ++ ", ".intercalate literals ++ "]"

/-- The text of a type in a language. -/
def render (lang : Language) : TypeExpr → String
  | .named name => identifier name .model lang
  | .primitive base format => primitiveName lang base format
  | .literals values => renderLiterals lang values
  | .array t => match lang with
    | .typescript => "Array<" ++ t.render lang ++ ">"
    | .python => "List[" ++ t.render lang ++ "]"
  | .dictionary t => match lang with
    | .typescript => "\x7b [key: string]: " ++ t.render lang ++ " \x7d"
    | .python => "Dict[str, " ++ t.render lang ++ "]"
  | .nullable t => match lang with
    | .typescript => t.render lang ++ " | null"
    | .python => "Optional[" ++ t.render lang ++ "]"

/-- A type that admits null if `b` holds. -/
def nullableIf (b : Bool) (t : TypeExpr) : TypeExpr := if b then .nullable t else t

/-- The type of anything. -/
def any : TypeExpr := .primitive "any" none

end TypeExpr

namespace Registry

/-! ## Reading types off the graph -/

mutual

/-- The type of a node taken apart. Only the nodes in `fresh` may be taken apart; a container that
    holds itself through nameless containers holds anything there. -/
def typeOf (r : Registry) (fresh : List ModelId) (id : ModelId) : TypeExpr :=
  match r.node? id with
  | none => .any
  | some m =>
      if id ∈ fresh then
        .nullableIf m.isNullable <| match m.kind with
          | .reference => .named m.baseType
          | .composite _ => .named m.name
          | .primitive => .primitive m.baseType m.format
          | .enum => .literals m.enumValues
          | .array => .array (r.itemType (fresh.erase id) m.link)
          | .dictionary => .dictionary (r.elementType (fresh.erase id) m.link)
      else .any
termination_by (fresh.length, 0)
decreasing_by all_goals
  next h => exact Prod.Lex.left _ _ (length_erase_lt_of_mem h)

/-- The type of the elements of a container: a named model appears by its name. -/
def elementType (r : Registry) (fresh : List ModelId) (link : Option ModelId) : TypeExpr :=
  match link with
  | none => .any
  | some id => match r.node? id with
    | none => .any
    | some m =>
        if r.isNamed id then .nullableIf m.isNullable (.named m.name) else r.typeOf fresh id
termination_by (fresh.length, 1)

/-- The type of the items of an array: an enum appears by its raw type. -/
def itemType (r : Registry) (fresh : List ModelId) (link : Option ModelId) : TypeExpr :=
  match link.bind fun id => r.node? (r.canonical id) with
  | some m =>
      if m.kind = .enum then .primitive m.baseType m.format else r.elementType fresh link
  | none => r.elementType fresh link
termination_by (fresh.length, 2)

end

/-- The type of a node. -/
def typeExpr (r : Registry) (id : ModelId) : TypeExpr := r.typeOf (List.range r.nodes.size) id

/-- The identifier of a node: named models are types, all others are properties. -/
def identifierOf (r : Registry) (id : ModelId) (m : Model) (lang : Language) : String :=
  identifier m.name (if r.isNamed id then .model else .property) lang

/-- How a node is called in a language. -/
def mappedType (r : Registry) (id : ModelId) (m : Model) (lang : Language) : MappedType :=
  { type := (r.typeExpr id).render lang
    identifier := r.identifierOf id m lang }

/-- Adds to every node how it is called in the given languages. -/
def mapLanguages (r : Registry) (langs : List Language) : Registry :=
  { r with
    nodes := r.nodes.mapIdx fun id m => { m with mapped := m.mapped.fill langs (r.mappedType id m) } }

end Registry

end OpenApi
