import OpenApi.Yaml.Tag
import OpenApi.Yaml.Text

set_option autoImplicit false

/-! # Tokens of YAML text -/

namespace OpenApi

namespace Yaml

/-- How a scalar is written. -/
inductive Style where
  | plain
  | quoted
  | literal
  | folded
  deriving DecidableEq, Repr, Inhabited

/-- What a YAML text consists of. The starts and ends of block collections are written by indentation
    alone. Anchors are numbered; an alias of an anchor that there is not has no number. -/
inductive Token where
  /-- A directive that gives the version of YAML. -/
  | version (major minor : Nat)
  /-- A directive that gives the meaning of a tag handle. -/
  | tagHandle (handle : String) (meaning : Tag)
  | documentStart
  | documentEnd
  | blockSequenceStart
  | blockMappingStart
  | blockEnd
  | flowSequenceStart
  | flowSequenceEnd
  | flowMappingStart
  | flowMappingEnd
  /-- Before an entry of a block sequence. -/
  | blockEntry
  /-- Between the entries of a flow collection. -/
  | flowEntry
  | key
  | value
  | alias (anchor : Option Nat)
  | anchor (number : Nat)
  /-- A tag behind the meaning of its handle; one in full has the empty handle. -/
  | tag (handle : String) (suffix : Tag)
  | scalar (style : Style) (text : String)
  deriving DecidableEq, Repr, Inhabited

/-- A token with the place where it starts. -/
structure Lexeme where
  token : Token
  place : Place
  deriving DecidableEq, Repr, Inhabited

end Yaml

end OpenApi
