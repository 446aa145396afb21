import OpenApi.Text.Words

set_option autoImplicit false

/-! # A name in all its case forms

Names of a document are arbitrary text. `CasedName.sanitize` keeps their letters and numbers, joined
by underscores, and `CasedName.ofString` computes the case forms of what is left. -/

namespace OpenApi

/-- A name with its case forms. -/
structure CasedName where
  text : String
  pascal : String
  camel : String
  snake : String
  screaming : String
  kebab : String
  deriving DecidableEq, Repr, Inhabited

namespace CasedName

/-- What stands for a name without any letter or number. -/
def unnamed : String := "unnamed"

/-- The pieces of a name joined by underscores, one more in front of a leading digit. -/
def sanitizeChars (cs : List Char) : List Char :=
  let body := List.intercalate ['_'] (Text.pieces cs)
  match cs with
  | c :: _ => if c.isDigit then '_' :: body else body
  | [] => body

/-- The letters and numbers of a name as one identifier-like word; `unnamed` if it has none. -/
def sanitize (name : String) : String :=
  match sanitizeChars name.toList with
  | [] => unnamed
  | cs => String.ofList cs

/-- The case forms of a name. -/
def ofString (name : String) : CasedName :=
  let s := sanitize name
  { text := name
    pascal := Text.pascalCase s
    camel := Text.camelCase s
    snake := Text.snakeCase s
    screaming := Text.screamingCase s
    kebab := Text.kebabCase s }

end CasedName

end OpenApi
