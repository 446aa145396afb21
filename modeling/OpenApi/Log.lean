import OpenApi.Dialect.Basic
import OpenApi.Document.Method

set_option autoImplicit false

/-! # The log

What the library has to say while it works. An event is a value; its level and wording are functions
of it. -/

namespace OpenApi

/-- How much an event matters. -/
inductive Level where
  | debug
  | warn
  deriving DecidableEq, Repr, Inhabited

/-- The name of a level. -/
def Level.name : Level → String
  | .debug => "DEBUG"
  | .warn => "WARN"

/-- Something worth a line in the log. -/
inductive Event where
  | normalizing (dialect : Dialect)
  | building (component : String)
  | promoting (name : String)
  /-- A constituent of a composite equals an earlier one; positions count from one. -/
  | droppingConstituent (parent : String) (position : Nat)
  | declared (models : Nat)
  | collected (method : Method) (path operationId : String)
  | ignoringBody (operation : String)
  | flattened (composite : String) (models primitives : Nat)
  | claimedAgain (name : String)
  | droppingOperation (method : Method) (path uniqueName : String)
  | assembled (models operations services : Nat)
  deriving DecidableEq, Repr

namespace Event

/-- The level of an event: what is lost deserves a warning. -/
def level : Event → Level
  | .ignoringBody _ | .claimedAgain _ | .droppingOperation .. => .warn
  | _ => .debug

/-- The wording of an event. -/
def message : Event → String
  | .normalizing dialect => "normalizing document as " ++ dialect.name
  | .building component => "building component model " ++ component
  | .promoting name => "promoting inline schema to " ++ name
  | .droppingConstituent parent position =>
      parent ++ ": dropping duplicate constituent " ++ toString position
  | .declared models => "declared " ++ toString models ++ " component models"
  | .collected method path operationId =>
      "collected " ++ method.name ++ " " ++ path ++ " as " ++ operationId
  | .ignoringBody operation => operation ++ ": request body without content is ignored"
  | .flattened composite models primitives =>
      composite ++ ": " ++ toString models ++ " composed models, " ++ toString primitives
        ++ " composed primitives"
  | .claimedAgain name =>
      name ++ " is claimed by more than one operation; keeping the first"
  | .droppingOperation method path uniqueName =>
      "dropping " ++ method.name ++ " " ++ path ++ ": " ++ uniqueName ++ " is already defined"
  | .assembled models operations services =>
      "assembled " ++ toString models ++ " models, " ++ toString operations ++ " operations, "
        ++ toString services ++ " services"

/-- The line of an event. -/
def line (e : Event) : String := e.level.name ++ " " ++ e.message

end Event

end OpenApi
