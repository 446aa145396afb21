import OpenApi.Document.Shape

set_option autoImplicit false

/-! # References

A reference is a path `#/components/<section>/<name>`. `Reference.name?` reads its name, and
`Reference.follow` walks along a chain of references to the definition at its end. The walk takes each
entry it uses out of those that it may still use, so it ends, and a name that was used before is met
again exactly when the chain is circular. -/

namespace OpenApi

namespace Reference

/-! ## Paths -/

/-- What every path starts with. -/
def root : List Char := "#/components/".toList

/-- A list without a given beginning. -/
def stripPrefix? : List Char → List Char → Option (List Char)
  | [], cs => some cs
  | _ :: _, [] => none
  | p :: ps, c :: cs => if p = c then stripPrefix? ps cs else none

/-- The name that a path refers to within the expected section. -/
def name? (expected path : String) : Except ResolveError String :=
  match stripPrefix? root path.toList with
  | none => .error (.malformed path)
  | some rest =>
      let found := rest.takeWhile (· ≠ '/')
      match rest.dropWhile (· ≠ '/') with
      | [] => .error (.malformed path)
      | _ :: name =>
          if found = expected.toList ∧ name ≠ [] ∧ '/' ∉ name then .ok (String.ofList name)
          else .error (.wrongSection expected (String.ofList found) path)

/-! ## Chains -/

/-- Follows a chain of references from `path` to a definition, and answers it with the name it is
    under. `view` tells a reference from a definition, `all` are the entries of the section, and
    `fresh` those that the chain has not used yet. -/
def followFrom {β α : Type} (expected : String) (view : β → String ⊕ α) (all fresh : Entries β)
    (path : String) : Except ResolveError (String × α) :=
  match name? expected path with
  | .error e => .error e
  | .ok name =>
      match _h : Entries.get? fresh name with
      -- an entry that is there but not fresh was passed before
      | none => .error (if all.has name then .circular path else .notFound path)
      | some entry => match view entry with
        | .inr definition => .ok (name, definition)
        | .inl next => followFrom expected view all (fresh.erase name) next
termination_by fresh.length
decreasing_by
  apply Entries.length_erase_lt
  have hne : Entries.get? fresh name ≠ none := by simp [_h]
  exact Decidable.not_not.1 fun hn => hne (Entries.get?_eq_none_iff.2 hn)

/-- Follows a chain of references within a section. -/
def follow {β α : Type} (expected : String) (view : β → String ⊕ α) (entries : Entries β)
    (path : String) : Except ResolveError (String × α) :=
  followFrom expected view entries entries path

end Reference

/-- A schema as a path or a definition. -/
def SchemaOrRef.view : SchemaOrRef → String ⊕ Schema
  | .ref path _ => .inl path
  | .inline s => .inr s

/-- A component as a path or a definition. -/
def RefOr.view {α : Type} : RefOr α → String ⊕ α
  | .ref path => .inl path
  | .inline a => .inr a

/-- Equality of schemas: references have the same path and mark, and definitions are written as the
    same JSON value. -/
def SchemaOrRef.equal : SchemaOrRef → SchemaOrRef → Bool
  | .ref p m, .ref q n => p = q && m = n
  | .inline s, .inline t => Json.equal (Schema.toJson s) (Schema.toJson t)
  | _, _ => false

namespace Components

/-! ## Schemas -/

/-- The definition at the end of a schema's references. -/
def resolve (c : Components) : SchemaOrRef → Except ResolveError Schema
  | .inline s => .ok s
  | .ref path _ => (Reference.follow "schemas" SchemaOrRef.view c.schemas path).map Prod.snd

/-- The component that a path points at directly, with its name. -/
def target (c : Components) (path : String) : Except ResolveError (String × SchemaOrRef) :=
  match Reference.name? "schemas" path with
  | .error e => .error e
  | .ok name => match c.schemas.get? name with
    | some s => .ok (name, s)
    | none => .error (.notFound path)

/-- The component schema that a path points at directly. -/
def lookupSchema (c : Components) (path : String) : Except ResolveError SchemaOrRef :=
  (c.target path).map Prod.snd

/-- The name of the component that a path points at directly. -/
def targetName (c : Components) (path : String) : Except ResolveError String :=
  (c.target path).map Prod.fst

/-- The name of the component at the end of a chain of references. -/
def canonicalName (c : Components) (path : String) : Except ResolveError String :=
  (Reference.follow "schemas" SchemaOrRef.view c.schemas path).map Prod.fst

/-- Equality up to references: two references are equal when they lead to the same component, and
    otherwise the definitions are compared. -/
def sameSchema (c : Components) (a b : SchemaOrRef) : Bool :=
  match a, b with
  | .ref p _, .ref q _ => match c.canonicalName p, c.canonicalName q with
    | .ok m, .ok n => m = n
    | _, _ => p = q
  | _, _ => match c.resolve a, c.resolve b with
    | .ok s, .ok t => Json.equal s.toJson t.toJson
    | _, _ => a.equal b

/-! ## Other components -/

/-- The definition at the end of a component's references in one section. -/
def resolveIn {α : Type} (expected : String) (entries : Entries (RefOr α)) :
    RefOr α → Except ResolveError α
  | .inline a => .ok a
  | .ref path => (Reference.follow expected RefOr.view entries path).map Prod.snd

/-- The definition of a parameter. -/
def resolveParameter (c : Components) : RefOr ParameterSpec → Except ResolveError ParameterSpec :=
  resolveIn "parameters" c.parameters

/-- The definition of a request body. -/
def resolveRequestBody (c : Components) : RefOr RequestBody → Except ResolveError RequestBody :=
  resolveIn "requestBodies" c.requestBodies

/-- The definition of a response. -/
def resolveResponse (c : Components) : RefOr ResponseSpec → Except ResolveError ResponseSpec :=
  resolveIn "responses" c.responses

end Components

end OpenApi
