import OpenApi.Naming.CasedName
import OpenApi.Naming.Language

set_option autoImplicit false

/-! # Identifiers of the target languages

An identifier is a name in the case form that its role and language ask for. A form that is empty,
starts with a digit or is a reserved word is escaped: the role's word is set in front of the name
and the case form is taken again. -/

namespace OpenApi

/-- What an identifier names. -/
inductive Role where
  | model
  | property
  | operation
  deriving DecidableEq, Repr, Inhabited

namespace Role

/-- The text set in front of a name that needs an escape. -/
def escape : Role → String
  | .model => "model_"
  | .property => "var_"
  | .operation => "call_"

/-- The case form of a role in a language. -/
def applyCase (role : Role) (lang : Language) (name : String) : String :=
  match role, lang with
  | .model, _ => Text.pascalCase name
  | _, .typescript => Text.camelCase name
  | _, .python => Text.snakeCase name

end Role

/-- Whether a text cannot stand as an identifier of the language. -/
def needsEscape (lang : Language) (word : String) : Bool :=
  match word.toList with
  | [] => true
  | c :: _ => c.isDigit || lang.reserves word

/-- The identifier for a name. -/
def identifier (name : String) (role : Role) (lang : Language) : String :=
  let s := CasedName.sanitize name
  let word := role.applyCase lang s
  if needsEscape lang word then role.applyCase lang (role.escape ++ s) else word

end OpenApi
