import OpenApi.Naming.Language

set_option autoImplicit false

/-! # Options of a build -/

namespace OpenApi

/-- How operations get their names. -/
inductive NamingStrategy where
  /-- From the declared id, or from the route where there is none. -/
  | useOperationId
  /-- From the route. -/
  | useRouteBased
  deriving DecidableEq, Repr, Inhabited

namespace NamingStrategy

/-- All strategies. -/
def all : List NamingStrategy := [.useOperationId, .useRouteBased]

/-- The name of a strategy in configurations. -/
def name : NamingStrategy → String
  | .useOperationId => "use_operation_id"
  | .useRouteBased => "use_route_based"

/-- The strategy of a name. -/
def ofName? (s : String) : Option NamingStrategy := all.find? (·.name = s)

end NamingStrategy

/-- What a build may be told. -/
structure Options where
  naming : NamingStrategy := .useOperationId
  languages : List Language := Language.all
  /-- Whether operations that share an assigned identity are refused. -/
  verifyDeduplicatedIds : Bool := true
  deriving DecidableEq, Repr, Inhabited

end OpenApi
