set_option autoImplicit false

/-! # HTTP methods -/

namespace OpenApi

/-- A method under which a path may have an operation. -/
inductive Method where
  | get
  | post
  | put
  | delete
  | patch
  | options
  | head
  | trace
  deriving DecidableEq, Repr, Inhabited

namespace Method

/-- The methods in the order in which the operations of a path are visited. -/
def all : List Method := [.get, .post, .put, .delete, .patch, .options, .head, .trace]

/-- The name of a method in requests. -/
def name : Method → String
  | .get => "GET"
  | .post => "POST"
  | .put => "PUT"
  | .delete => "DELETE"
  | .patch => "PATCH"
  | .options => "OPTIONS"
  | .head => "HEAD"
  | .trace => "TRACE"

end Method

end OpenApi
