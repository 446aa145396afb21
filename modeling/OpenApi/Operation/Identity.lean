import OpenApi.Logged
import OpenApi.Operation.Basic

set_option autoImplicit false

/-! # Identities of operations

Operations are told apart by unique names. An operation may have one assigned to it by a vendor
extension; otherwise its id is its name, after its first tag if it has tags. A `Ledger` keeps what is
taken so far. Two operations of one id clash when they have no tags, or share one; and no two
operations may end with the same unique name, unless one of them had it assigned and the check of assigned
names is off. -/

namespace OpenApi

/-- What is taken. -/
structure Ledger where
  /-- The ids of operations without tags. -/
  untagged : List String := []
  /-- The ids of operations under each of their tags. -/
  tagged : List (String × String) := []
  /-- The unique names, each with whether it was assigned by the extension. -/
  names : Entries Bool := []
  deriving DecidableEq, Repr, Inhabited

namespace Ledger

/-- Takes a unique name. A clash that is let pass is answered with an event. -/
def claim (verify : Bool) (l : Ledger) (name : String) (assigned : Bool) :
    Except BuildError (Ledger × List Event) :=
  match l.names.get? name with
  | none => .ok ({ l with names := l.names ++ [(name, assigned)] }, [])
  | some earlier =>
      if earlier || assigned then
        if verify then .error (.duplicateDeduplicatedOperation name)
        else .ok (l, [.claimedAgain name])
      else .error (.duplicateOperation name)

/-- Takes the id of an operation without tags. -/
def takeUntagged (l : Ledger) (id : String) : Except BuildError Ledger :=
  if id ∈ l.untagged then .error (.duplicateOperation id)
  else .ok { l with untagged := id :: l.untagged }

/-- Takes the id of an operation under its tags. -/
def takeTagged (l : Ledger) (id : String) : List String → Except BuildError Ledger
  | [] => .ok l
  | tag :: tags =>
      if (tag, id) ∈ l.tagged then .error (.duplicateTaggedOperation tag id)
      else takeTagged { l with tagged := (tag, id) :: l.tagged } id tags

/-- Takes the id of an operation. -/
def takeId (l : Ledger) (id : String) (tags : List String) : Except BuildError Ledger :=
  if tags.isEmpty then l.takeUntagged id else l.takeTagged id tags

end Ledger

namespace Operation

/-- The extension that assigns a unique name. -/
def assignedNameKey : String := "x-aws-nx-deduplicated-op-id"

/-- The unique name assigned to an operation. -/
def assignedName? (op : Operation) : Option String :=
  (Entries.get? op.vendorExtensions assignedNameKey).bind Json.string?

/-- The id after a tag. -/
def tagIdentity (tag operationId : String) : String := tag ++ "." ++ operationId

/-- The unique name of an operation that has none assigned. -/
def ownName (op : Operation) : String :=
  match op.tags with
  | [] => op.operationId
  | tag :: _ => tagIdentity tag op.operationId

/-- The operation under an identity: the name it is rendered by, and its unique name. -/
def identified (op : Operation) (name uniqueName : String) : Operation :=
  { op with
    name := CasedName.ofString name
    uniqueName := uniqueName
    tagIdentities := op.tags.map (tagIdentity · op.operationId) }

/-- Gives an operation its identity. -/
def identify (verify : Bool) (l : Ledger) (op : Operation) :
    Except BuildError (Ledger × List Event × Operation) :=
  match op.assignedName? with
  | some name => do
      let (l, events) ← l.claim verify name true
      pure (l, events, op.identified name name)
  | none => do
      let l ← l.takeId op.operationId op.tags
      let (l, events) ← l.claim verify op.ownName false
      pure (l, events, op.identified op.operationId op.ownName)

/-- Gives the operations their identities in order. -/
def identifyFrom (verify : Bool) (l : Ledger) :
    List Operation → Logged (Except BuildError (List Operation))
  | [] => .silent (.ok [])
  | op :: ops => match op.identify verify l with
    | .error e => .silent (.error e)
    | .ok (l, events, op) =>
        let rest := identifyFrom verify l ops
        ⟨events ++ rest.log, rest.value.map (op :: ·)⟩

/-- Gives the operations of a document their identities. -/
def identifyAll (verify : Bool) (ops : List Operation) :
    Logged (Except BuildError (List Operation)) :=
  identifyFrom verify {} ops

end Operation

end OpenApi
