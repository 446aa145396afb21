import OpenApi.Log

set_option autoImplicit false

/-! # Results with their log -/

namespace OpenApi

/-- A result and the events on the way to it, in order. -/
structure Logged (α : Type) where
  log : List Event
  value : α

namespace Logged

variable {α β ε : Type}

/-- A result reached in silence. -/
def silent (value : α) : Logged α := ⟨[], value⟩

/-- Goes on after a success; an error keeps the log up to it. -/
def andThen (first : Logged (Except ε α)) (next : α → Logged (Except ε β)) :
    Logged (Except ε β) :=
  match first.value with
  | .error e => ⟨first.log, .error e⟩
  | .ok a => ⟨first.log ++ (next a).log, (next a).value⟩

end Logged

end OpenApi
