import OpenApi.Yaml.Node
import OpenApi.Yaml.Resolution
import OpenApi.Yaml.Scanner

set_option autoImplicit false

/-! # Values of YAML nodes

A node becomes a JSON value by replacing aliases with what they stand for, and scalars with their values.
Aliases can make a small text stand for a huge value, or for an endless one, so there are limits: on the
depth of a value, and on the number of aliases followed. -/

namespace OpenApi

namespace Yaml

namespace Node

/-! ## Anchors -/

mutual

/-- The anchored nodes in a node, with their numbers, in the order of the text. -/
def anchored : Node → List (Nat × Node)
  | .alias .. => []
  | n@(.scalar _ p _ _) => (p.anchor.map (·, n)).toList
  | n@(.sequence _ p items) => (p.anchor.map (·, n)).toList ++ anchoredItems items
  | n@(.mapping _ p entries) => (p.anchor.map (·, n)).toList ++ anchoredEntries entries

/-- The anchored nodes in a list. -/
def anchoredItems : List Node → List (Nat × Node)
  | [] => []
  | n :: ns => anchored n ++ anchoredItems ns

/-- The anchored nodes in the entries of a mapping. -/
def anchoredEntries : List (Node × Node) → List (Nat × Node)
  | [] => []
  | (k, v) :: es => anchored k ++ anchored v ++ anchoredEntries es

end

mutual

/-- The number of marks that a node consists of: one for a scalar or alias, two around a collection. -/
def weight : Node → Nat
  | .alias .. => 1
  | .scalar .. => 1
  | .sequence _ _ items => 2 + weightOfItems items
  | .mapping _ _ entries => 2 + weightOfEntries entries

/-- The weight of a list of nodes. -/
def weightOfItems : List Node → Nat
  | [] => 0
  | n :: ns => weight n + weightOfItems ns

/-- The weight of the entries of a mapping. -/
def weightOfEntries : List (Node × Node) → Nat
  | [] => 0
  | (k, v) :: es => weight k + weight v + weightOfEntries es

end

mutual

/-- Where the first alias in a node is that stands for nothing. -/
def unknownAlias? : Node → Option Place
  | .alias place none => some place
  | .alias _ (some _) => none
  | .scalar .. => none
  | .sequence _ _ items => unknownAliasOfItems? items
  | .mapping _ _ entries => unknownAliasOfEntries? entries

/-- The same for a list of nodes. -/
def unknownAliasOfItems? : List Node → Option Place
  | [] => none
  | n :: ns => (unknownAlias? n).or (unknownAliasOfItems? ns)

/-- The same for the entries of a mapping. -/
def unknownAliasOfEntries? : List (Node × Node) → Option Place
  | [] => none
  | (k, v) :: es => ((unknownAlias? k).or (unknownAlias? v)).or (unknownAliasOfEntries? es)

end

end Node

/-- The path to the value of a key. -/
def Path.behind (path : Path) : Node → Path
  | .scalar _ _ _ key => path.field key
  | _ => path.unnamed

/-! ## Reading nodes -/

/-- What aliases stand for, and how often they may be followed. -/
structure Anchors where
  /-- The anchored nodes; of several with one number, the first one counts. -/
  nodes : List (Nat × Node)
  limit : Nat

/-- A reader of nodes, which counts the aliases that it follows. -/
abbrev Reading (α : Type) := StateT Nat (Except Error) α

namespace Reading

/-- Fails since a node does not fit. -/
def misfit {α : Type} (path : Path) (place : Place) (cause : Misfit) : Reading α :=
  throw (.misfit path place cause)

/-- Passes over a node. Its aliases are not followed, but they have to stand for something. -/
def pass (n : Node) : Reading Unit :=
  match n.unknownAlias? with
  | some place => throw (.unknownAlias place)
  | none => pure ()

end Reading

namespace Anchors

/-- The deepest nesting of collections. -/
def depthLimit : Nat := 128

/-- How often aliases may be followed for each mark of a text. -/
def aliasFactor : Nat := 100

/-- The anchors of a text. -/
def ofNode (n : Node) : Anchors := ⟨n.anchored.reverse, aliasFactor * n.weight⟩

/-- A node itself, or what an alias stands for. -/
def follow (a : Anchors) : Node → Reading Node
  | .alias place anchor =>
      match anchor.bind (List.lookup · a.nodes) with
      | none => throw (.unknownAlias place)
      | some n => do
          let count ← get
          if count < a.limit then do
            set (count + 1)
            pure n
          else throw .tooManyAliases
  | n => pure n

/-- Fails since a node, which is no alias, is of a wrong kind. -/
def wrongKind {α : Type} (path : Path) (expected : String) : Node → Reading α
  | .alias place _ => throw (.unknownAlias place)
  | .scalar place p style s =>
      Reading.misfit path place <| match Scalar.meaning p.tag style s with
        | .ok m => .wrongKind m.describe expected
        | .error cause => cause
  | .sequence place .. => Reading.misfit path place (.wrongKind "sequence" expected)
  | .mapping place .. => Reading.misfit path place (.wrongKind "map" expected)

/-- The text of a scalar, whatever it stands for. -/
def text (a : Anchors) (expected : String) (path : Path) (n : Node) : Reading String := do
  match ← a.follow n with
  | .scalar _ _ _ s => pure s
  | n => wrongKind path expected n

/-! ## JSON values -/

/-- What is expected of a node that is to be a JSON value. -/
def anyValue : String := "any valid JSON value"

/-- Fails if a tag gives the node a name: it has its meaning somewhere else. -/
def checkTag (path : Path) (place : Place) (tag : Option Tag) : Reading Unit :=
  if (tag.bind Tag.name?).isSome then Reading.misfit path place (.wrongKind "enum" anyValue)
  else pure ()

/-- The value of a scalar. -/
def scalarValue (path : Path) (place : Place) (tag : Option Tag) (style : Style) (s : String) :
    Reading Json :=
  match Scalar.meaning tag style s with
  | .error cause => Reading.misfit path place cause
  | .ok m => match m.toJson? with
    | some v => pure v
    | none => Reading.misfit path place (.wrongKind m.describe anyValue)

/-- Reads the keys and values of a mapping, values by `read`. A later value replaces an earlier one of the
    same key. -/
def entries {α : Type} (a : Anchors) (read : Path → Node → Reading α) (path : Path)
    (expected : String) : List (Node × Node) → Entries α → Reading (Entries α)
  | [], es => pure es
  | (k, v) :: rest, es => do
      let key ← a.text expected path k
      let value ← read (path.behind k) v
      a.entries read path "a string" rest (Entries.put key value es)

/-- The value of a node in which collections may still be nested as deep as `depth`. -/
def value (a : Anchors) : Nat → Path → Node → Reading Json
  | depth, path, n => do
      match ← a.follow n with
      | .alias place _ => throw (.unknownAlias place)
      | .scalar place p style s => do
          checkTag path place p.tag
          scalarValue path place p.tag style s
      | .sequence place p items => do
          checkTag path place p.tag
          match depth with
          | 0 => throw (.tooDeep place)
          | depth + 1 =>
              let vs ← items.zipIdx.mapM fun (item, i) => a.value depth (path.item i) item
              pure (.array vs)
      | .mapping place p es => do
          checkTag path place p.tag
          match depth with
          | 0 => throw (.tooDeep place)
          | depth + 1 =>
              let es ← a.entries (a.value depth) path "a string key" es []
              pure (.object es)

end Anchors

/-! ## Reading texts -/

/-- The node of the first document of a text, and whether the text goes on behind it. -/
def node? (text : String) : Option (Node × Bool) := (lexemes? text).bind Node.ofLexemes?

/-- Reads a text of one document. -/
def read {α : Type} (ofNode : Anchors → Path → Node → Reading α) (text : String) :
    Except Error α :=
  match node? text with
  | none => .error .malformed
  | some (n, goesOn) => do
      let (v, _) ← (ofNode (Anchors.ofNode n) .root n).run 0
      if goesOn then .error .severalDocuments else pure v

/-- The value of a text. -/
def value (text : String) : Except Error Json := read (·.value Anchors.depthLimit) text

end Yaml

end OpenApi
