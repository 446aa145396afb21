import OpenApi.Text.Words

set_option autoImplicit false

/-! # Operation names from routes

An operation without a name of its own is named after its method and path: a verb for the method,
then the path's fixed segments. A path that ends in a parameter is about one resource, so `GET` is
`get` instead of `list` there and the last fixed segment loses its plural. -/

namespace OpenApi

namespace Route

/-- A segment of a path. -/
inductive Segment where
  | fixed (text : String)
  | parameter
  deriving DecidableEq, Repr

/-- The non-empty segments of a path; one in braces is a parameter. -/
def segments (path : String) : List Segment :=
  let parts := (path.split '/').toList.map (·.toString)
  (parts.filter (· ≠ "")).map fun s =>
    if s.startsWith '\x7b' && s.endsWith '\x7d' then .parameter else .fixed s

/-- The texts of the fixed segments. -/
def resources (segments : List Segment) : List String :=
  segments.filterMap fun
    | .fixed text => some text
    | .parameter => none

/-- Whether the last segment is a parameter. -/
def endsInParameter (segments : List Segment) : Bool := segments.getLast? = some .parameter

/-- The verb for a method in upper case; an unknown method stands for itself. -/
def verb (method : String) (single : Bool) : String :=
  match method with
  | "GET" => if single then "get" else "list"
  | "POST" => "create"
  | "PUT" => "update"
  | "DELETE" => "delete"
  | "PATCH" => "patch"
  | "OPTIONS" => "options"
  | "HEAD" => "head"
  | "TRACE" => "trace"
  | other => other

/-- Drops the last `n` characters. -/
private def dropLast (n : Nat) (s : String) : String :=
  String.ofList (s.toList.take (s.length - n))

/-- A word without its plural ending. -/
def singularize (word : String) : String :=
  if word.endsWith "ies" && 3 < word.utf8ByteSize then dropLast 3 word ++ "y"
  else if word.endsWith "ses" || word.endsWith "xes" || word.endsWith "zes" then dropLast 2 word
  else if word.endsWith "s" && !word.endsWith "ss" && 1 < word.utf8ByteSize then dropLast 1 word
  else word

/-- The resource part of a name: the segments in Pascal case, the last one in the singular when the
    path is about one resource. -/
def resourceName (single : Bool) : List String → String
  | [] => ""
  | [last] => Text.pascalCase (if single then singularize last else last)
  | part :: rest => Text.pascalCase part ++ resourceName single rest

/-- The name of the operation with the given method and path. -/
def name (method path : String) : String :=
  let segments := segments path
  let single := endsInParameter segments
  let method := String.ofList (Text.upperWord method.toList)
  verb method single ++ resourceName single (resources segments)

end Route

end OpenApi
