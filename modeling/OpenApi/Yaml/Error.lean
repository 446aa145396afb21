import OpenApi.Text.Quoted
import OpenApi.Yaml.Text

set_option autoImplicit false

/-! # What can be wrong with YAML

Beside malformed text, a node may not fit what is expected at its place. Such a `Misfit` is reported with the
path of keys and positions that leads to the node, and with the place where the node starts. -/

namespace OpenApi

namespace Yaml

/-! ## Paths -/

/-- The way from the root of a document to a node. -/
inductive Path where
  | root
  | field (parent : Path) (key : String)
  | item (parent : Path) (index : Nat)
  /-- The value of a key that is not written out at its place. -/
  | unnamed (parent : Path)
  deriving DecidableEq, Repr, Inhabited

namespace Path

/-- The text of a path. -/
def text : Path → String
  | root => "."
  | field root key => key
  | field parent key => parent.text ++ "." ++ key
  | item parent index => parent.text ++ "[" ++ toString index ++ "]"
  | unnamed root => "?"
  | unnamed parent => parent.text ++ ".?"

end Path

/-! ## Misfits -/

/-- How a node differs from what is expected. -/
inductive Misfit where
  | wrongKind (found expected : String)
  /-- The text of a scalar is none that its tag or type allows. -/
  | wrongText (text expected : String)
  /-- The name is none of those that may be chosen. -/
  | noChoice (name : String) (choices : List String)
  | repeatedField (name : String)
  deriving DecidableEq, Repr

/-- Names between backticks, as alternatives. -/
def alternatives (names : List String) : String :=
  match names.map fun name => "`" ++ name ++ "`" with
  | [] => "nothing"
  | [a] => a
  | [a, b] => a ++ " or " ++ b
  | quoted => "one of " ++ ", ".intercalate quoted

/-- The wording of a misfit. -/
def Misfit.message : Misfit → String
  | wrongKind found expected => "invalid type: " ++ found ++ ", expected " ++ expected
  | wrongText text expected =>
      "invalid value: string " ++ Text.quoted text ++ ", expected " ++ expected
  | noChoice name choices => "unknown variant `" ++ name ++ "`, expected " ++ alternatives choices
  | repeatedField name => "duplicate field `" ++ name ++ "`"

/-! ## Errors -/

/-- Why a text has no value of the expected type. -/
inductive Error where
  /-- The text is not YAML. -/
  | malformed
  /-- An alias stands for nothing. -/
  | unknownAlias (place : Place)
  | misfit (path : Path) (place : Place) (cause : Misfit)
  /-- Too many collections are within each other. -/
  | tooDeep (place : Place)
  /-- Aliases make the value much larger than the text. -/
  | tooManyAliases
  | severalDocuments
  deriving DecidableEq, Repr

/-- A message about a place. Nothing is said of the start of a text. -/
def Place.locate (p : Place) (message : String) : String :=
  if p = ⟨0, 0⟩ then message
  else message ++ " at line " ++ toString (p.line + 1) ++ " column " ++ toString (p.column + 1)

/-- The wording of an error; that of malformed text is not specified further. -/
def Error.message : Error → String
  | malformed => "malformed text"
  | unknownAlias place => place.locate "unknown anchor"
  | misfit .root place cause => place.locate cause.message
  | misfit path place cause => place.locate (path.text ++ ": " ++ cause.message)
  | tooDeep place => place.locate "recursion limit exceeded"
  | tooManyAliases => "repetition limit exceeded"
  | severalDocuments =>
      "deserializing from YAML containing more than one document is not supported"

end Yaml

end OpenApi
