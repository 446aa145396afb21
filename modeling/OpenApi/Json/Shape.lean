import OpenApi.Error

set_option autoImplicit false

/-! # Reading values of a known shape

`Shape` holds the readers for the plain shapes: strings, booleans, lists, maps. A record is described
by a `RecordShape`, the list of its fields. It is read from a map whose members are met in their
order, or, if it keeps no unknown members, from a sequence of its fields in their order. -/

namespace OpenApi

namespace Shape

variable {α ρ : Type}

/-- A string. -/
def string : Json → Except ShapeError String
  | .string s => .ok s
  | v => .error (.wrongKind v "a string")

/-- A boolean. -/
def bool : Json → Except ShapeError Bool
  | .bool b => .ok b
  | v => .error (.wrongKind v "a boolean")

/-- Any value. -/
def any (v : Json) : Except ShapeError Json := .ok v

/-- A value that may be absent: null stands for its absence. -/
def optional (read : Json → Except ShapeError α) : Json → Except ShapeError (Option α)
  | .null => .ok none
  | v => (read v).map some

/-- A list. -/
def list (read : Json → Except ShapeError α) : Json → Except ShapeError (List α)
  | .array xs => xs.mapM read
  | v => .error (.wrongKind v "a sequence")

/-- A map. -/
def entries (read : Json → Except ShapeError α) : Json → Except ShapeError (Entries α)
  | .object es => es.mapM fun e => (read e.2).map (e.1, ·)
  | v => .error (.wrongKind v "a map")

/-- The name of a constant: a string, or a map from the name to null alone. -/
def constant? : Json → Option String
  | .string s => some s
  | .object [(s, .null)] => some s
  | _ => none

end Shape

/-- A field of a record. -/
structure FieldShape (ρ : Type) where
  name : String
  /-- Reads the value of the field into the record. -/
  take : Json → ρ → Except ShapeError ρ
  /-- Whether a map must have the field. -/
  required : Bool := false
  /-- Whether a sequence may end before the field. -/
  trailing : Bool := false

/-- The shape of a record. -/
structure RecordShape (ρ : Type) where
  name : String
  fields : List (FieldShape ρ)
  /-- The record before any field is read. -/
  blank : ρ
  /-- What becomes of an unknown member, when the record keeps them. -/
  keep? : Option (String → Json → ρ → ρ) := none

namespace FieldShape

variable {α ρ : Type}

/-- A field that must be there. -/
def require (name : String) (read : Json → Except ShapeError α) (set : α → ρ → ρ) :
    FieldShape ρ where
  name := name
  take v r := (read v).map (set · r)
  required := true

/-- A field that may be missing or null. -/
def option (name : String) (read : Json → Except ShapeError α) (set : Option α → ρ → ρ) :
    FieldShape ρ where
  name := name
  take v r := (Shape.optional read v).map (set · r)

/-- A field that may be missing, but not null. -/
def default (name : String) (read : Json → Except ShapeError α) (set : α → ρ → ρ) :
    FieldShape ρ where
  name := name
  take v r := (read v).map (set · r)
  trailing := true

end FieldShape

namespace RecordShape

variable {ρ : Type}

/-- One member of a map. -/
def takeMember (s : RecordShape ρ) (r : ρ) (member : String × Json) : Except ShapeError ρ :=
  match s.fields.find? (·.name = member.1) with
  | some field => field.take member.2 r
  | none => match s.keep? with
    | some keep => .ok (keep member.1 member.2 r)
    | none => .ok r

/-- Reads a record from the members of a map. A missing field is reported after all members. -/
def ofEntries (s : RecordShape ρ) (es : Entries Json) : Except ShapeError ρ :=
  match es.foldlM s.takeMember s.blank with
  | .error e => .error e
  | .ok r => match s.fields.find? fun field => field.required && !es.has field.name with
    | some field => .error (.missingField field.name)
    | none => .ok r

/-- Reads the fields from `index` on from the items of a sequence that are left. Behind the last item, fields
    with a default are passed over. -/
def takeItems (s : RecordShape ρ) (length : Nat) (index : Nat) :
    List (FieldShape ρ) → List Json → ρ → Except ShapeError ρ
  | [], [], r => .ok r
  | [], _ :: _, _ => .error (.tooLong length)
  | field :: fields, [], r =>
      if field.trailing then s.takeItems length (index + 1) fields [] r
      else .error (.tooShort index s.name s.fields.length)
  | field :: fields, v :: vs, r => do
      let r ← field.take v r
      s.takeItems length (index + 1) fields vs r

/-- Reads a record. -/
def read (s : RecordShape ρ) (v : Json) : Except ShapeError ρ :=
  match v, s.keep? with
  | .object es, _ => s.ofEntries es
  | .array xs, none => s.takeItems xs.length 0 s.fields xs s.blank
  | v, _ => .error (.wrongKind v ("struct " ++ s.name))

end RecordShape

/-! ## Writing records -/

namespace Json

/-- The entry of an optional field: nothing when it is absent. -/
def optionEntry {α : Type} (key : String) (o : Option α) (f : α → Json) : List (String × Json) :=
  match o with
  | none => []
  | some a => [(key, f a)]

/-- The entry of a list: nothing when it is empty. -/
def listEntry {α : Type} (key : String) (xs : List α) (f : α → Json) : List (String × Json) :=
  match xs with
  | [] => []
  | x :: xs => [(key, .array (f x :: xs.map f))]

/-- The entry of a map: nothing when it is empty. -/
def mapEntry {α : Type} (key : String) (es : Entries α) (f : α → Json) : List (String × Json) :=
  match es with
  | [] => []
  | e :: es => [(key, .object (Entries.mapValues f (e :: es)))]

end Json

end OpenApi
