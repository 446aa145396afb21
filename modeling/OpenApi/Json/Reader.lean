import OpenApi.Json.Token

set_option autoImplicit false

/-! # Reading JSON text

`Json.ofTokens?` is the fold of a pushdown automaton over the tokens: its stack holds the containers
that are still open. Containers nest at most `Json.depthLimit` deep. An object that repeats a key
keeps the place of its first entry and the value of its last. -/

namespace OpenApi

namespace Json

/-- How many containers may be open at once. -/
def depthLimit : Nat := 127

namespace Reader

/-- A container that is still open. -/
inductive Frame where
  /-- An array with its items so far, last first. -/
  | array (rev : List Json)
  /-- An object between two members. -/
  | object (entries : Entries Json)
  /-- An object whose member `key` has no value yet. -/
  | member (entries : Entries Json) (key : String)

/-- What may come next. -/
inductive Expect where
  /-- A value. -/
  | value
  /-- A value, or the end of an array that is empty so far. -/
  | firstItem
  /-- A key, or the end of an object that is empty so far. -/
  | firstKey
  /-- A key. -/
  | key
  /-- The colon after a key. -/
  | colon
  /-- A comma or the end of the innermost container. -/
  | separator
  /-- Nothing: the value is complete. -/
  | done (v : Json)

/-- The open containers, innermost first, and what may come next. -/
structure State where
  stack : List Frame
  expect : Expect

/-- Hands a complete value to the innermost container. -/
def deliver (stack : List Frame) (v : Json) : Option State :=
  match stack with
  | [] => some ⟨[], .done v⟩
  | .array rev :: rest => some ⟨.array (v :: rev) :: rest, .separator⟩
  | .member entries key :: rest => some ⟨.object (entries.put key v) :: rest, .separator⟩
  | .object _ :: _ => none

/-- Opens a container. -/
def openFrame (stack : List Frame) (frame : Frame) (expect : Expect) : Option State :=
  if stack.length < depthLimit then some ⟨frame :: stack, expect⟩ else none

/-- Takes the first token of a value. -/
def startValue (stack : List Frame) : Token → Option State
  | .arrayStart => openFrame stack (.array []) .firstItem
  | .objectStart => openFrame stack (.object []) .firstKey
  | .string s => deliver stack (.string s)
  | .literal v => deliver stack v
  | _ => none

/-- Takes a key in the innermost object. -/
def takeKey (stack : List Frame) : Token → Option State
  | .string key => match stack with
    | .object entries :: rest => some ⟨.member entries key :: rest, .colon⟩
    | _ => none
  | _ => none

/-- One token further. -/
def step (s : State) (t : Token) : Option State :=
  match s.expect with
  | .value => startValue s.stack t
  | .firstItem => match t, s.stack with
    | .arrayEnd, .array rev :: rest => deliver rest (.array rev.reverse)
    | t, stack => startValue stack t
  | .firstKey => match t, s.stack with
    | .objectEnd, .object entries :: rest => deliver rest (.object entries)
    | t, stack => takeKey stack t
  | .key => takeKey s.stack t
  | .colon => match t with
    | .colon => some ⟨s.stack, .value⟩
    | _ => none
  | .separator => match t, s.stack with
    | .comma, .array rev :: rest => some ⟨.array rev :: rest, .value⟩
    | .comma, .object entries :: rest => some ⟨.object entries :: rest, .key⟩
    | .arrayEnd, .array rev :: rest => deliver rest (.array rev.reverse)
    | .objectEnd, .object entries :: rest => deliver rest (.object entries)
    | _, _ => none
  | .done _ => none

end Reader

/-- The value that a list of tokens spells. -/
def ofTokens? (ts : List Token) : Option Json :=
  match ts.foldlM Reader.step ⟨[], .value⟩ with
  | some ⟨_, .done v⟩ => some v
  | _ => none

/-- The value of a JSON text, or `none` if the text is none. -/
def read? (s : String) : Option Json := (tokens? s).bind ofTokens?

end Json

end OpenApi
