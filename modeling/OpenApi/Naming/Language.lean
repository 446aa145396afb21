set_option autoImplicit false

/-! # Target languages

The languages for which types and identifiers are worked out, and the words each of them keeps for
itself. -/

namespace OpenApi

/-- A language of generated clients. -/
inductive Language where
  | typescript
  | python
  deriving DecidableEq, Repr, Inhabited

namespace Language

/-- The languages in their fixed order. -/
def all : List Language := [.typescript, .python]

/-- The name of a language in configurations and results. -/
def name : Language → String
  | .typescript => "typescript"
  | .python => "python"

/-- The language of a name. -/
def ofName? (s : String) : Option Language := all.find? (·.name = s)

/-- The words that cannot be identifiers in a language. -/
def reservedWords : Language → List String
  | .typescript =>
      ["any", "as", "async", "await", "boolean", "break", "case", "catch", "class", "const",
       "constructor", "continue", "debugger", "declare", "default", "delete", "do", "else", "enum",
       "export", "extends", "false", "finally", "for", "from", "function", "get", "if",
       "implements", "import", "in", "instanceof", "interface", "let", "module", "new", "null",
       "number", "of", "package", "private", "protected", "public", "require", "return", "set",
       "static", "string", "super", "switch", "symbol", "this", "throw", "true", "try", "type",
       "typeof", "undefined", "var", "void", "while", "with", "yield"]
  | .python =>
      ["False", "None", "True", "and", "as", "assert", "async", "await", "break", "class",
       "continue", "def", "del", "elif", "else", "except", "finally", "for", "from", "global",
       "if", "import", "in", "is", "lambda", "nonlocal", "not", "or", "pass", "raise", "return",
       "try", "while", "with", "yield", "bool", "bytes", "dict", "float", "int", "list", "object",
       "self", "str", "type"]

/-- Whether a word is reserved. -/
def reserves (lang : Language) (word : String) : Bool := lang.reservedWords.contains word

end Language

/-- A value for some of the languages. -/
structure PerLanguage (α : Type) where
  typescript : Option α := none
  python : Option α := none
  deriving DecidableEq, Repr, Inhabited

namespace PerLanguage

variable {α : Type}

/-- The value for a language. -/
def get? (m : PerLanguage α) : Language → Option α
  | .typescript => m.typescript
  | .python => m.python

/-- Sets the value for a language. -/
def put (m : PerLanguage α) (lang : Language) (value : α) : PerLanguage α :=
  match lang with
  | .typescript => { m with typescript := some value }
  | .python => { m with python := some value }

/-- Sets the value of `f` for each of the languages. -/
def fill (m : PerLanguage α) (langs : List Language) (f : Language → α) : PerLanguage α :=
  langs.foldl (fun m lang => m.put lang (f lang)) m

/-- The values in the order of the languages. -/
def toList (m : PerLanguage α) : List (Language × α) :=
  Language.all.filterMap fun lang => (m.get? lang).map (lang, ·)

end PerLanguage

end OpenApi
