import OpenApi.Yaml.Value

set_option autoImplicit false

/-! # Records in YAML

Where the type of a value is known beforehand, its node is read by the type and not by its look: a text
may be written as a number, and nothing at all stands for a record whose fields all have their defaults. -/

namespace OpenApi

namespace Yaml

/-- Whether a node is a scalar of which nothing is written. -/
def Node.isBlank : Node → Bool
  | .scalar _ _ .plain s => s = ""
  | _ => false

/-- The tag of a node. -/
def Node.tag? : Node → Option Tag
  | .alias .. => none
  | .scalar _ p _ _ | .sequence _ p _ | .mapping _ p _ => p.tag

namespace Anchors

/-! ## Scalars -/

/-- Whether a scalar can be a boolean: one without quotes, or a literal block with the tag of booleans. -/
def allowsBool (p : Properties) (style : Style) : Bool :=
  style = .plain || (style = .literal && p.tag = some .bool)

/-- A boolean. -/
def bool (a : Anchors) (path : Path) (n : Node) : Reading Bool := do
  match ← a.follow n with
  | n@(.scalar _ p style s) =>
      match if allowsBool p style then Scalar.bool? s else none with
      | some b => pure b
      | none => wrongKind path "a boolean" n
  | n => wrongKind path "a boolean" n

/-- One of some alternatives, which have names. It is named by the text of a scalar, or by the tag of one
    that says nothing else. An unknown tag is reported as a misfit of the collection around it, whose path and
    place are `outer`. -/
def choice {α : Type} (a : Anchors) (all : List α) (nameOf : α → String) (outer : Path × Place)
    (path : Path) (n : Node) : Reading α := do
  let unknown (name : String) : Misfit := .noChoice name (all.map nameOf)
  let n ← a.follow n
  match n.tag?.bind Tag.name?, n with
  | none, .scalar place _ _ s => match all.find? (nameOf · = s) with
    | some x => pure x
    | none => Reading.misfit path place (unknown s)
  | none, n => wrongKind path "a YAML tag starting with '!'" n
  | some name, n => match all.find? (nameOf · = name), n with
    | none, _ => Reading.misfit outer.1 outer.2 (unknown name)
    | some x, .scalar place _ style s =>
        if style = .plain && (s = "" || Scalar.isNull s) then pure x
        else Reading.misfit path place (.wrongText s "null")
    | some _, n => wrongKind path "unit" n

/-! ## Collections -/

/-- The items of a list. A reader of items is told where the list is. -/
def list {α : Type} (a : Anchors) (read : Path × Place → Path → Node → Reading α) (path : Path)
    (n : Node) : Reading (List α) := do
  match ← a.follow n with
  | .sequence place _ items =>
      items.zipIdx.mapM fun (item, i) => read (path, place) (path.item i) item
  | n => if n.isBlank then pure [] else wrongKind path "a sequence" n

/-- What a field does to a record, which starts at a place: it is set to what its node says. -/
abbrev Field (ρ : Type) := Path × Place → Path → Node → ρ → Reading ρ

/-- Sets the fields of a record one after the other. A key that is no field is passed over with its value;
    a field that has been set is not set again. -/
def setFields {ρ : Type} (a : Anchors) (field? : String → Option (Field ρ)) (outer : Path × Place) :
    List String → List (Node × Node) → ρ → Reading ρ
  | _, [], r => pure r
  | done, (k, v) :: es, r => do
      let key ← a.text "field identifier" outer.1 k
      match field? key with
      | none => do
          Reading.pass v
          setFields a field? outer done es r
      | some set =>
          if key ∈ done then Reading.misfit outer.1 outer.2 (.repeatedField key)
          else do
            let r ← set outer (outer.1.behind k) v r
            setFields a field? outer (key :: done) es r

/-- A record of a name, given with the defaults of its fields. -/
def record {ρ : Type} (a : Anchors) (name : String) (field? : String → Option (Field ρ)) (path : Path)
    (n : Node) (r : ρ) : Reading ρ := do
  match ← a.follow n with
  | .mapping place _ es => setFields a field? (path, place) [] es r
  | n => if n.isBlank then pure r else wrongKind path ("struct " ++ name) n

end Anchors

end Yaml

end OpenApi
