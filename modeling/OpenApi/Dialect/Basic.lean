import OpenApi.Error
import OpenApi.Number.Reading
import OpenApi.Text.Letters

set_option autoImplicit false

/-! # Dialects

Documents up to OpenAPI 3.0 mark a schema that admits null by `nullable: true`; from 3.1 on null is a
type among others. The dialect is read off the version of the document. -/

namespace OpenApi

/-- A convention about null. -/
inductive Dialect where
  /-- OpenAPI 3.0: `nullable: true`. -/
  | v30
  /-- OpenAPI 3.1 and later: null is a type. -/
  | v31
  deriving DecidableEq, Repr, Inhabited

namespace Dialect

/-- The name of a dialect. -/
def name : Dialect → String
  | .v30 => "V30"
  | .v31 => "V31"

/-- A text without the blanks at its ends. -/
def trim (cs : List Char) : List Char :=
  ((cs.dropWhile Text.isBlank).reverse.dropWhile Text.isBlank).reverse

/-- A number of at most 32 bits in decimal digits, with or without a plus sign. -/
def number? (cs : List Char) : Option Nat :=
  let ds := match cs with
    | '+' :: ds => ds
    | ds => ds
  if ds ≠ [] ∧ ds.all Char.isDigit ∧ digitsValue ds < Nat.pow 2 32 then some (digitsValue ds) else none

/-- The dialect of a version: its first number must be 3, and the second one decides. -/
def ofVersion? (version : String) : Option Dialect :=
  let cs := trim version.toList
  let major := cs.takeWhile (· ≠ '.')
  let minor := ((cs.dropWhile (· ≠ '.')).drop 1).takeWhile (· ≠ '.')
  if major = ['3'] then
    (number? minor).map fun n => if n = 0 then .v30 else .v31
  else none

/-- The dialect of a version, or the error that the version is not supported. -/
def detect (version : String) : Except ParseError Dialect :=
  match ofVersion? version with
  | some d => .ok d
  | none => .error (.unsupportedVersion version)

/-- The text of a value given as a version. -/
def versionText : Json → String
  | .string s => s
  | v => v.compact

/-- The dialect of a document. -/
def ofDocument (doc : Json) : Except ParseError Dialect :=
  match doc.member? "openapi", doc.member? "swagger" with
  | some version, _ => detect (versionText version)
  | none, some version => .error (.unsupportedVersion (versionText version))
  | none, none => .error (.missingField "openapi")

end Dialect

end OpenApi
